import DdsEnabler.Corrupted
import DdsEnabler.Rendezvous

/-!
What the calls about goals do where they fail.

The user's JSON is parsed while the message is built, before anything is checked, and nobody catches
what the parser throws. And a goal whose identifier is in use is stored nowhere: the identifier is
erased after that, which is that of the other goal.
-/

namespace DdsEnabler

open Exec Tables RpcUtils

/-! ### Collections that raise -/

/-- The entries are registered up to one whose decoding raises what is not caught. -/
def TypeSupport.Raises (types : TypeSupport) : List SerializedType → Prop
  | [] => False
  | d :: l => (∃ e, deserializeDynamicType types d = .error e) ∨
      ∃ name i o, deserializeDynamicType types d = .ok (some (name, i, o)) ∧
        types.registerTypeObject i o = true ∧ types.Raises l

/-- The user is asked for the type, and answers with a collection that raises. -/
def Env.RaisesType (env : Env) (typeName : Str) (s : State) : Prop :=
  Asks env typeName s ∧ ∃ l, env.collection typeName = some l ∧ env.types.Raises l

/-- The type of a topic without a reader raises. -/
def Env.RaisesTopic (env : Env) (topicName : Str) (s : State) : Prop :=
  topicName ≠ [] ∧ s.participant.lookupReader topicName = none ∧
    ∃ info, env.topicInfo topicName = some info ∧ env.ReadsQos info ∧
      env.RaisesType info.typeName s

/-- A computation that returns, whatever it returns. -/
def Returns {α : Type} (x : M α) (s : State) : Prop := ∃ a t, x.run s = .ok a t

section Raise

variable {env : Env} {typeName topicName : Str} {s : State} {α β : Type}

lemma returns_of_error {x : M α} {e : Exc} {t : State} (h : x.run s = .error e t) :
    ¬ Returns x s := by
  rintro ⟨a, u, hok⟩
  rw [h] at hok
  cases hok

lemma returns_congr {x : M α} {y : M α} {t : State} (h : x.run s = y.run t) :
    Returns x s ↔ Returns y t := by
  unfold Returns
  rw [h]

lemma returns_pure (a : α) (s : State) : Returns (pure a) s := ⟨a, s, rfl⟩

lemma returns_bind {x : M α} {f : α → M β}
    (hf : ∀ a t, x.run s = .ok a t → Returns (f a) t) : Returns (x >>= f) s ↔ Returns x s := by
  constructor
  · rintro ⟨b, u, h⟩
    obtain ⟨a, t, hx, -⟩ := ok_of_bind h
    exact ⟨a, t, hx⟩
  · rintro ⟨a, t, h⟩
    obtain ⟨b, u, hb⟩ := hf a t h
    exact ⟨b, u, (run_bind_ok h).trans hb⟩

lemma registered_error (types : TypeSupport) (l : List SerializedType) (last : Str × Nat × Nat) :
    (∃ e, types.registered l last = .error e) ↔ types.Raises l := by
  induction l generalizing last with
  | nil => simp [TypeSupport.registered, TypeSupport.Raises]
  | cons d l ih =>
    unfold TypeSupport.registered TypeSupport.Raises
    rcases hd : deserializeDynamicType types d with e | _ | ⟨name, i, o⟩
    · simp
    · simp
    · by_cases hreg : types.registerTypeObject i o = true
      · simp only [hreg, if_true, ih]
        simp [hreg]
      · simp [hreg]

lemma queriedType_error (env : Env) (typeName : Str) :
    (∃ e, env.queriedType typeName = .error e) ↔
      ∃ l, env.collection typeName = some l ∧ env.types.Raises l := by
  unfold Env.queriedType Env.collection
  rcases env.callbacks.typeQuery with _ | query
  · simp
  · simp only [Option.bind_some]
    rcases query typeName with _ | serialized
    · simp
    · simp only [Option.bind_some]
      unfold TypeSupport.registeredType
      rcases env.types.deserializeDynamicTypes serialized with _ | l
      · simp
      · have herror := registered_error env.types l ([], 0, 0)
        simp only [Option.some.injEq, exists_eq_left', ← herror]
        rcases env.types.registered l ([], 0, 0) with e | _ | ⟨name, i, o⟩
        · simp
        · simp
        · simp

lemma returns_getTypeIdentifier (env : Env) (typeName : Str) (s : State) :
    Returns (getTypeIdentifier env typeName) s ↔ ¬ env.RaisesType typeName s := by
  unfold Env.RaisesType
  rcases hs : s.handler.schemas.lookup typeName with _ | ⟨i, dynType⟩
  · rcases hr : env.registryType typeName with _ | ⟨i, dynType⟩
    · have hasks : Asks env typeName s := ⟨hs, hr⟩
      obtain ⟨ids, hrun⟩ := getTypeIdentifier_query hasks
      rw [and_iff_right hasks, ← queriedType_error]
      rcases hq : env.queriedType typeName with e | _ | ⟨i, o⟩ <;> rw [hq] at hrun
      · exact iff_of_false (returns_of_error hrun) (fun h => h ⟨e, rfl⟩)
      · exact iff_of_true ⟨_, _, hrun⟩ (by simp)
      · exact iff_of_true ⟨_, _, hrun⟩ (by simp)
    · refine iff_of_true ⟨_, _, getTypeIdentifier_registry hs hr⟩ fun h => ?_
      rw [h.1.unregistered] at hr
      cases hr
  · refine iff_of_true ⟨_, _, getTypeIdentifier_known hs⟩ fun h => ?_
    rw [h.1.unknown] at hs
    cases hs

lemma returns_fillTopicStruct (env : Env) (topicName : Str) (info : TopicInfo) (s : State) :
    Returns (fillTopicStruct env topicName info) s ↔
      ¬ (env.ReadsQos info ∧ env.RaisesType info.typeName s) := by
  by_cases hqos : env.ReadsQos info
  · obtain ⟨qos, heq⟩ := fillTopicStruct_eq hqos topicName
    rw [heq, returns_bind fun r t _ => returns_pure _ t, returns_getTypeIdentifier]
    simp [hqos]
  · refine iff_of_true ?_ fun h => hqos h.1
    simp only [Env.ReadsQos, not_or, Bool.not_eq_true, Option.isSome_eq_false_iff,
      Option.isNone_iff_eq_none] at hqos
    unfold fillTopicStruct
    simp only [hqos.1, Bool.false_eq_true, if_false, hqos.2]
    exact ⟨none, s, rfl⟩

lemma returns_publishSample (env : Env) (topicName typeName : Str) (json : JsonText) (s : State) :
    Returns (publishSample env topicName typeName json) s := by
  unfold publishSample
  rw [returns_congr (run_bind_ok (readHandler_run s _))]
  split
  · exact ⟨true, s.log [.published topicName json], rfl⟩
  · exact returns_pure false s

lemma returns_publish (env : Env) (topicName : Str) (json : JsonText) (s : State) :
    Returns (publish env topicName json) s ↔ ¬ env.RaisesTopic topicName s := by
  unfold Env.RaisesTopic
  by_cases hname : topicName = []
  · subst hname
    exact iff_of_true ⟨false, s, rfl⟩ (by simp)
  · have hempty : ¬ topicName.isEmpty = true := by simpa using hname
    have hread := readParticipant_run s (·.lookupReader topicName)
    rcases hf : s.participant.lookupReader topicName with _ | f
    · have hquery : Returns (queryTopic env topicName) s ↔ ¬ ∃ info,
          env.topicInfo topicName = some info ∧ env.ReadsQos info ∧
            env.RaisesType info.typeName s := by
        unfold queryTopic Env.topicInfo
        rcases env.callbacks.topicQuery with _ | query
        · exact iff_of_true ⟨none, s, rfl⟩ (by simp)
        · simp only [Option.bind_some]
          rcases query topicName with _ | info
          · exact iff_of_true ⟨none, s, rfl⟩ (by simp)
          · simpa using returns_fillTopicStruct env topicName info s
      have hpublish : Returns (publish env topicName json) s ↔
          Returns (queryTopic env topicName) s := by
        unfold publish
        rw [if_neg hempty, returns_congr (run_bind_ok hread), hf]
        refine returns_bind fun r t _ => ?_
        rcases r with _ | topic
        · exact returns_pure false t
        · simp only
          rw [returns_congr (run_bind_ok (createTopicWriter_awaited env topic t))]
          rcases (t.participant.awaited env topic).lookupReader topic.topicName with _ | f
          · exact returns_pure false _
          · exact returns_publishSample env topicName topic.typeName json _
      rw [hpublish, hquery]
      simp [hname]
    · refine iff_of_true ?_ (by simp)
      obtain ⟨b, t, hsample⟩ := returns_publishSample env topicName f.1.2 json s
      refine ⟨b, t, ?_⟩
      unfold publish
      rw [if_neg hempty, run_bind_ok hread, hf]
      exact hsample

end Raise

/-! ### Sending a goal -/

lemma createGoalRequestMsg_eq (json : JsonText) (u : UUID) :
    createGoalRequestMsg json u =
      json.parse.map fun goal => .obj [("goal".toList, goal), goalId u] := by
  unfold createGoalRequestMsg
  cases json.parse <;> rfl

lemma createResultReplyMsg_eq (statusCode : StatusCode) (json : JsonText) :
    createResultReplyMsg statusCode json = json.parse.map fun result =>
      .obj [("result".toList, result), ("status".toList, .int statusCode.toInt)] := by
  unfold createResultReplyMsg
  cases json.parse <;> rfl

lemma createFeedbackMsg_eq (json : JsonText) (u : UUID) :
    createFeedbackMsg json u =
      json.parse.map fun feedback => .obj [("feedback".toList, feedback), goalId u] := by
  unfold createFeedbackMsg
  cases json.parse <;> rfl

/-- The request of the goal goes out: its text is a document, its topic has a name in the protocol,
and the request can be published there. -/
def State.SendsGoal (s : State) (env : Env) (actionName : Str) (json : JsonText)
    (protocol : Protocol) : Prop :=
  ∃ goalJson topicName, createGoalRequestMsg json env.uuid = .ok goalJson ∧
    requestTopic protocol (actionName ++ actionGoalSuffix) = some topicName ∧
    s.rpcPublishable env topicName (.doc goalJson) = true

/-- How a goal that is sent ends: it is stored, or what is under its identifier is erased. -/
def State.goalEnd (s : State) (env : Env) (actionName : Str) (requestId : Nat)
    (protocol : Protocol) : State :=
  if (s.handler.entry env.uuid).isSome then
    { s with handler := s.handler.eraseActionUUID env.uuid .forced }.log
      [.erasedAction env.uuid .forced]
  else
    { s with
      handler := s.handler.insertEntry env.uuid
        (.create actionName .goal requestId protocol env.now) }.log
      [.storedRequest actionName env.uuid requestId .goal protocol env.now]

section Goal

variable {env : Env} {actionName : Str} {json : JsonText} {protocol : Protocol} {s : State}

lemma storeGoal_goalEnd (env : Env) (actionName : Str) (requestId : Nat) (protocol : Protocol)
    (s : State) : (storeGoal env actionName env.uuid requestId protocol).run s =
      .ok (s.handler.entry env.uuid).isNone (s.goalEnd env actionName requestId protocol) := by
  unfold State.goalEnd storeGoal
  rcases h : s.handler.entry env.uuid with _ | i
  · have hstore : s.handler.storeActionRequest actionName env.uuid requestId .goal protocol
        env.now = (true, s.handler.insertEntry env.uuid
          (.create actionName .goal requestId protocol env.now)) := by
      simp [Handler.storeActionRequest, h]
    rw [run_bind_ok (storeActionRequest_run_true s env (by rw [hstore])), hstore]
    rfl
  · have hstore : (s.handler.storeActionRequest actionName env.uuid requestId .goal protocol
        env.now).1 = false := by
      simp [Handler.storeActionRequest, h]
    rw [run_bind_ok (storeActionRequest_run_false s env hstore)]
    rfl

lemma sendActionGoal_malformed {e : Exc} (h : json.parse = .error e) :
    (sendActionGoal env actionName json protocol).run s = .error e s := by
  have hmsg : createGoalRequestMsg json env.uuid = .error e := by
    rw [createGoalRequestMsg_eq, h]
    rfl
  simp [sendActionGoal, hmsg]

lemma sendActionGoal_unsent {goalJson : Json}
    (hmsg : createGoalRequestMsg json env.uuid = .ok goalJson)
    (h : ¬ s.SendsGoal env actionName json protocol) :
    ∃ t, (sendActionGoal env actionName json protocol).run s = .ok (false, env.uuid) t ∧
      (t = s ∨ t = s.draw) := by
  rcases htopic : requestTopic protocol (actionName ++ actionGoalSuffix) with _ | topicName
  · exact ⟨s, by simp [sendActionGoal, hmsg, sendServiceRequest_run, htopic], .inl rfl⟩
  · have hpub : ¬ s.draw.rpcPublishable env topicName (.doc goalJson) = true :=
      fun hpub => h ⟨goalJson, topicName, hmsg, htopic, hpub⟩
    exact ⟨s.draw, by simp [sendActionGoal, hmsg, sendServiceRequest_run, htopic, hpub], .inr rfl⟩

/-- A goal that is sent is stored, unless its identifier is in use. -/
lemma sendActionGoal_sent (h : s.SendsGoal env actionName json protocol) :
    ∃ (u : State) (id : Nat), u.handler.actionRequestIdToUuid = s.handler.actionRequestIdToUuid ∧
      (sendActionGoal env actionName json protocol).run s =
        .ok ((s.handler.entry env.uuid).isNone, env.uuid)
          (u.goalEnd env actionName id protocol) := by
  obtain ⟨goalJson, topicName, hmsg, htopic, hpub⟩ := h
  have hpub' : s.draw.rpcPublishable env topicName (.doc goalJson) = true := hpub
  have hsent : (sendServiceRequest env (actionName ++ actionGoalSuffix) (.doc goalJson)
      protocol).run s = .ok (true, s.handler.nextRequestId.1)
        (s.draw.log [.publishedRpc topicName (.doc goalJson) s.handler.nextRequestId.1]) := by
    simp [sendServiceRequest_run, htopic, hpub']
  refine ⟨s.draw.log [.publishedRpc topicName (.doc goalJson) s.handler.nextRequestId.1],
    s.handler.nextRequestId.1, rfl, ?_⟩
  unfold sendActionGoal
  simp only [hmsg, lift_ok, pure_bind]
  rw [run_bind_ok hsent]
  simp only [if_true]
  rw [run_bind_ok (storeGoal_goalEnd env actionName _ protocol _)]
  rfl

lemma returns_sendActionGoal {d : Json} (hparse : json.parse = .ok d) :
    Returns (sendActionGoal env actionName json protocol) s := by
  by_cases h : s.SendsGoal env actionName json protocol
  · obtain ⟨u, id, -, hrun⟩ := sendActionGoal_sent h
    exact ⟨_, _, hrun⟩
  · have hmsg := createGoalRequestMsg_eq json env.uuid
    rw [hparse] at hmsg
    obtain ⟨t, hrun, -⟩ := sendActionGoal_unsent hmsg h
    exact ⟨_, _, hrun⟩

end Goal

lemma entry_forced (h : Handler) (u : UUID) : (h.eraseActionUUID u .forced).entry u = none := by
  rw [Handler.entry_eraseActionUUID, if_pos rfl]
  rcases h.entry u with _ | i
  · rfl
  · simp [Handler.eraseFlag, ActionRequestInfo.erase]

/-- A call that returns false leaves the map of goals as it was. -/
def KeepsGoals (env : Env) (actionName : Str) (json : JsonText) (protocol : Protocol)
    (s : State) : Prop :=
  ∀ actionId t, (sendActionGoal env actionName json protocol).run s = .ok (false, actionId) t →
    t.handler.actionRequestIdToUuid = s.handler.actionRequestIdToUuid

/-- **A failed call disturbs no goal** if and only if the identifier is free where the request goes
out. -/
theorem failed_goal_iff (env : Env) (actionName : Str) (json : JsonText) (protocol : Protocol)
    (s : State) :
    KeepsGoals env actionName json protocol s ↔
      (s.SendsGoal env actionName json protocol → s.handler.entry env.uuid = none) := by
  by_cases hsends : s.SendsGoal env actionName json protocol
  · obtain ⟨u, id, hmap, hrun⟩ := sendActionGoal_sent hsends
    have hentry : u.handler.entry env.uuid = s.handler.entry env.uuid := by
      unfold Handler.entry
      rw [hmap]
    rw [forall_prop_of_true hsends]
    rcases hi : s.handler.entry env.uuid with _ | i <;> rw [hi] at hrun hentry
    · refine iff_of_true (fun actionId t h => ?_) rfl
      rw [hrun] at h
      cases h
    · refine iff_of_false (fun h => ?_) (by simp)
      have hkept : (u.goalEnd env actionName id protocol).handler.actionRequestIdToUuid =
          s.handler.actionRequestIdToUuid := h _ _ hrun
      have hgone : (u.goalEnd env actionName id protocol).handler.entry env.uuid = none := by
        unfold State.goalEnd
        rw [if_pos (by simp [hentry])]
        exact entry_forced u.handler env.uuid
      rw [Handler.entry, hkept] at hgone
      rw [Handler.entry, hgone] at hi
      cases hi
  · refine iff_of_true (fun actionId t h => ?_) (fun h => absurd h hsends)
    rcases hparse : json.parse with e | d
    · rw [sendActionGoal_malformed hparse] at h
      cases h
    · have hmsg := createGoalRequestMsg_eq json env.uuid
      rw [hparse] at hmsg
      obtain ⟨t', hrun, ht'⟩ := sendActionGoal_unsent hmsg hsends
      rw [hrun] at h
      cases h
      rcases ht' with rfl | rfl
      · rfl
      · rfl

/-- A topic of the goal service of an action, as a server elsewhere has it. -/
def goalTopic (topicName : Str) : DdsTopic := { topicName, typeName := "Goal".toList }

def sendGoal : M (Bool × UUID) :=
  sendActionGoal .silent "fibonacci/_action/".toList (.doc .null) .ros2

/-- The topics of the goal service are discovered, their type is recorded, and a goal is sent. -/
def sendOnce : M (Bool × UUID) := do
  discard <| createReader .silent (goalTopic "rq/fibonacci/_action/send_goalRequest".toList)
  discard <| createReader .silent (goalTopic "rr/fibonacci/_action/send_goalReply".toList)
  addSchema .silent ⟨"Goal".toList, 0⟩ 0 true
  sendGoal

/-- Another goal that comes with the identifier of the first is refused, and the first is erased. -/
theorem goal_erased_by_another :
    outcome sendOnce {} = .ok (true, .null) ∧
      ((after sendOnce {}).handler.entry .null).isSome = true ∧
      outcome sendGoal (after sendOnce {}) = .ok (false, .null) ∧
      (after sendGoal (after sendOnce {})).handler.entry .null = none ∧
      ¬ ∀ env actionName json protocol s, KeepsGoals env actionName json protocol s := by
  have hsome : ((after sendOnce {}).handler.entry .null).isSome = true := by decide +kernel
  have hfalse : outcome sendGoal (after sendOnce {}) = .ok (false, .null) := by decide +kernel
  have hnone : (after sendGoal (after sendOnce {})).handler.entry .null = none :=
    Option.isNone_iff_eq_none.mp (by decide +kernel)
  refine ⟨by decide +kernel, hsome, hfalse, hnone, fun h => ?_⟩
  have hkept : (after sendGoal (after sendOnce {})).handler.actionRequestIdToUuid =
      (after sendOnce {}).handler.actionRequestIdToUuid :=
    h _ _ _ _ _ _ _ (run_eq_ok.mpr ⟨hfalse, rfl⟩)
  rw [Handler.entry, hkept] at hnone
  rw [Handler.entry, hnone] at hsome
  cases hsome

/-! ### Malformed JSON -/

/-- The calls about goals that take the user's JSON. -/
inductive GoalCall
  | sendActionGoal (env : Env) (actionName : Str) (json : JsonText) (protocol : Protocol)
  | sendActionResult (env : Env) (actionName : Str) (goalId : UUID) (statusCode : StatusCode)
      (json : JsonText)
  | sendActionFeedback (env : Env) (actionName : Str) (json : JsonText) (goalId : UUID)

namespace GoalCall

/-- The call, with what it returns. -/
def call : GoalCall → M Bool
  | .sendActionGoal env actionName json protocol => do
    return (← DdsEnabler.sendActionGoal env actionName json protocol).1
  | .sendActionResult env actionName goalId statusCode json =>
    DdsEnabler.sendActionResult env actionName goalId statusCode json
  | .sendActionFeedback env actionName json goalId =>
    DdsEnabler.sendActionFeedback env actionName json goalId

def json : GoalCall → JsonText
  | .sendActionGoal _ _ json _ => json
  | .sendActionResult _ _ _ _ json => json
  | .sendActionFeedback _ _ json _ => json

/-- The JSON is a document. -/
def Parses (c : GoalCall) : Prop := ∃ d, c.json.parse = .ok d

/-- The call returns, and for a text that is no document it returns false and changes nothing. -/
structure Reports (c : GoalCall) (s : State) : Prop where
  returns : Returns c.call s
  malformed : ¬ c.Parses → c.call.run s = .ok false s

/-- Where the call comes to parse the text, it is a document; and what is published then does not
raise. -/
def Harmless (c : GoalCall) (s : State) : Prop :=
  match c with
  | .sendActionGoal .. => c.Parses
  | .sendActionResult _ actionName goalId _ _ =>
    s.handler.isUUIDActive actionName goalId = true → c.Parses
  | .sendActionFeedback env actionName _ goalId =>
    s.handler.isUUIDActive actionName goalId = true →
      ∀ pre, topicPrefix (s.handler.getActionProtocol actionName goalId) = some pre →
        c.Parses ∧ ¬ env.RaisesTopic (pre ++ actionName ++ actionFeedbackSuffix) s

variable {env : Env} {actionName : Str} {json : JsonText} {protocol : Protocol} {goalId : UUID}
  {statusCode : StatusCode} {s : State} {c : GoalCall}

lemma reports_of_idle (h : c.call.run s = .ok false s) : Reports c s :=
  ⟨⟨false, s, h⟩, fun _ => h⟩

/-- A call that throws for a malformed text reports only where it parses and then returns. -/
lemma reports_iff (hthrow : ¬ c.Parses → ¬ Returns c.call s) :
    Reports c s ↔ c.Parses ∧ Returns c.call s := by
  constructor
  · intro h
    refine ⟨?_, h.returns⟩
    by_contra hparse
    exact hthrow hparse h.returns
  · rintro ⟨hparse, hreturns⟩
    exact ⟨hreturns, fun hnot => absurd hparse hnot⟩

lemma reports_sendActionGoal :
    Reports (.sendActionGoal env actionName json protocol) s ↔
      Harmless (.sendActionGoal env actionName json protocol) s := by
  have hcall : Returns (GoalCall.sendActionGoal env actionName json protocol).call s ↔
      Returns (DdsEnabler.sendActionGoal env actionName json protocol) s :=
    returns_bind fun r t _ => returns_pure r.1 t
  rw [reports_iff, hcall]
  · refine and_iff_left_of_imp ?_
    rintro ⟨d, hparse⟩
    exact returns_sendActionGoal hparse
  · intro hparse
    rw [hcall]
    rcases hjson : json.parse with e | d
    · exact returns_of_error (sendActionGoal_malformed hjson)
    · exact absurd ⟨d, hjson⟩ hparse

lemma returns_handleActionResult (env : Env) (actionName : Str) (actionId : UUID)
    (result : JsonText) (s : State) :
    Returns (handleActionResult env actionName actionId result) s := by
  unfold handleActionResult
  rw [returns_congr (run_bind_ok (readHandler_run s _))]
  rcases s.handler.entry actionId with _ | i
  · exact returns_pure false s
  · simp only
    split
    · exact returns_pure false s
    · split
      · obtain ⟨sent, t, es, hrun, -⟩ :=
          getResultReplyCallback_run env actionName actionId result i.resultRequestId s
        exact ⟨sent, t, hrun⟩
      · exact ⟨_, _, setResult_run s actionId result⟩

lemma reports_sendActionResult :
    Reports (.sendActionResult env actionName goalId statusCode json) s ↔
      (s.handler.isUUIDActive actionName goalId = true → ∃ d, json.parse = .ok d) := by
  have hread := readHandler_run s (·.isUUIDActive actionName goalId)
  have hmsg := createResultReplyMsg_eq statusCode json
  rcases hactive : s.handler.isUUIDActive actionName goalId <;> rw [hactive] at hread
  · refine iff_of_true (reports_of_idle ?_) (by simp)
    unfold call DdsEnabler.sendActionResult
    rw [run_bind_ok hread]
    rfl
  · rw [forall_prop_of_true rfl]
    rcases hjson : json.parse with e | d <;> rw [hjson] at hmsg
    · have hrun : (GoalCall.sendActionResult env actionName goalId statusCode json).call.run s =
          .error e s := by
        unfold call DdsEnabler.sendActionResult
        rw [run_bind_ok hread]
        simp only [if_true, hmsg, Except.map, lift_error]
        rfl
      exact iff_of_false (fun h => returns_of_error hrun h.returns) (by simp)
    · refine iff_of_true ((reports_iff fun h => absurd ⟨d, hjson⟩ h).mpr ⟨⟨d, hjson⟩, ?_⟩) (by simp)
      unfold call DdsEnabler.sendActionResult
      rw [returns_congr (run_bind_ok hread)]
      simp only [if_true, hmsg, Except.map, lift_ok, pure_bind]
      exact returns_handleActionResult env actionName goalId _ s

lemma reports_sendActionFeedback :
    Reports (.sendActionFeedback env actionName json goalId) s ↔
      (s.handler.isUUIDActive actionName goalId = true →
        ∀ pre, topicPrefix (s.handler.getActionProtocol actionName goalId) = some pre →
          (∃ d, json.parse = .ok d) ∧
            ¬ env.RaisesTopic (pre ++ actionName ++ actionFeedbackSuffix) s) := by
  have hread := readHandler_run s (·.isUUIDActive actionName goalId)
  have hprotocol := readHandler_run s (·.getActionProtocol actionName goalId)
  have hmsg := createFeedbackMsg_eq json goalId
  rcases hactive : s.handler.isUUIDActive actionName goalId <;> rw [hactive] at hread
  · refine iff_of_true (reports_of_idle ?_) (by simp)
    unfold call DdsEnabler.sendActionFeedback
    rw [run_bind_ok hread]
    rfl
  · rw [forall_prop_of_true rfl]
    rcases hpre : topicPrefix (s.handler.getActionProtocol actionName goalId) with _ | pre
    · refine iff_of_true (reports_of_idle ?_) (by simp)
      unfold call DdsEnabler.sendActionFeedback
      rw [run_bind_ok hread]
      simp only [if_true]
      rw [run_bind_ok hprotocol, hpre]
      rfl
    · simp only [Option.some.injEq, forall_eq']
      rcases hjson : json.parse with e | d <;> rw [hjson] at hmsg
      · have hrun : (GoalCall.sendActionFeedback env actionName json goalId).call.run s =
            .error e s := by
          unfold call DdsEnabler.sendActionFeedback
          rw [run_bind_ok hread]
          simp only [if_true]
          rw [run_bind_ok hprotocol, hpre]
          simp only [hmsg, Except.map, lift_error]
          rfl
        exact iff_of_false (fun h => returns_of_error hrun h.returns) (by simp)
      · have hcall : Returns (GoalCall.sendActionFeedback env actionName json goalId).call s ↔
            ¬ env.RaisesTopic (pre ++ actionName ++ actionFeedbackSuffix) s := by
          rw [← returns_publish env _
            (.doc (.obj [("feedback".toList, d), RpcUtils.goalId goalId]))]
          unfold call DdsEnabler.sendActionFeedback
          rw [returns_congr (run_bind_ok hread)]
          simp only [if_true]
          rw [returns_congr (run_bind_ok hprotocol), hpre]
          simp only [hmsg, Except.map, lift_ok, pure_bind]
        have hparses : (GoalCall.sendActionFeedback env actionName json goalId).Parses := ⟨d, hjson⟩
        rw [reports_iff fun h => absurd hparses h, hcall]
        exact and_congr_left' (iff_of_true hparses ⟨d, rfl⟩)

/-- **Malformed JSON is reported** if and only if the call does not come to parse it. -/
theorem reports_malformed_iff (c : GoalCall) (s : State) : Reports c s ↔ Harmless c s := by
  cases c with
  | sendActionGoal env actionName json protocol => exact reports_sendActionGoal
  | sendActionResult env actionName goalId statusCode json => exact reports_sendActionResult
  | sendActionFeedback env actionName json goalId => exact reports_sendActionFeedback

/-- A goal that is no document throws out of the call. -/
theorem malformed_goal_throws :
    outcome (GoalCall.sendActionGoal .silent "fibonacci/_action/".toList (.other "x".toList)
        .ros2).call {} = .error .jsonParseError ∧
      ¬ ∀ c s, Reports c s := by
  have hthrown : (GoalCall.sendActionGoal .silent "fibonacci/_action/".toList
      (.other "x".toList) .ros2).call.run {} = .error .jsonParseError {} := rfl
  exact ⟨outcome_error hthrown, fun h => returns_of_error hthrown (h _ _).returns⟩

end GoalCall

end DdsEnabler
