import DdsEnabler.Replies

/-!
Replies with results, and the goals that they end.

A result reply is matched to a goal by the identifier of the request for it, whatever the action
of the goal; the identifier zero matches the goals for which no result has been requested. The
result flag is raised in any case: where no goal matches, it is raised for the goal that an
uninitialised local happens to name.
-/

namespace DdsEnabler

open Exec Runs Tables

/-- A reply with a result, on the topic of an action. -/
structure IsResultReply (topic : DdsTopic) (data : Sample) (dynType : DynType) (actionName : Str)
    (s : State) : Prop where
  accepted : data.Accepted topic dynType s
  isRpc : data.isRpc = true
  rpcType : (RpcInfo.ofTopic topic.topicName).rpcType = .action
  serviceType : (RpcInfo.ofTopic topic.topicName).serviceType = .reply
  actionType : (RpcInfo.ofTopic topic.topicName).actionType = .result
  action : (RpcInfo.ofTopic topic.topicName).actionName = actionName

/-- No goal of the action has requested its result under the identifier. -/
def MatchesNothing (s : State) (actionName : Str) (requestId : Nat) : Prop :=
  ∀ u i, s.handler.entry u = some i → i.actionName = actionName → i.resultRequestId ≠ 0 →
    i.resultRequestId ≠ requestId

def Event.isResult : Event → Bool
  | .actionResultNotification .. => true
  | _ => false

/-- The reply tells the user of no result and leaves every goal as it is, whatever the
uninitialised local holds. -/
def ChangesNothing (env : Env) (topic : DdsTopic) (data : Sample) (s : State) : Prop :=
  ∀ garbage, ∃ t, (addData { env with garbageUuid := garbage } topic data).run s = .ok () t ∧
    (∀ e ∈ newEvents s t, e.isResult = false) ∧ ∀ v, t.handler.entry v = s.handler.entry v

/-- The result flag of the goal is up already. -/
def ResultFlagged (s : State) (u : UUID) : Prop :=
  ∀ i, s.handler.entry u = some i → i.resultReceived = true

/-- A goal that the handler takes for that of the reply has its flag up, and the user is not
told; if it takes none, all the goals have. -/
def FlagsUp (env : Env) (data : Sample) (dynType : DynType) (s : State) : Prop :=
  match s.handler.getActionRequestUUID env.visitOrder data.relatedSequenceNumber .result with
  | some g => ResultFlagged s g ∧ (env.callbacks.actionResultNotification = false ∨
      env.decode dynType data.payload = none)
  | none => ∀ u, ResultFlagged s u

section Reply

variable {env : Env} {topic : DdsTopic} {data : Sample} {dynType : DynType} {actionName : Str}
  {s : State}

/-- What the user is told of a result. -/
def resultTold (env : Env) (msg : Message) (dynType : DynType) (u : UUID) (actionName : Str) :
    List Event :=
  match msg.prepareJsonData env dynType with
  | some json =>
    if env.callbacks.actionResultNotification then
      [.actionResultNotification actionName json u msg.publishTime]
    else []
  | none => []

lemma writeActionResultNotification_eq (env : Env) (msg : Message) (dynType : DynType)
    (actionName : Str) (u : UUID) (s : State) :
    (writeActionResultNotification env msg dynType u actionName).run s =
      .ok () (s.log (resultTold env msg dynType u actionName)) := by
  unfold writeActionResultNotification resultTold
  rcases msg.prepareJsonData env dynType with _ | json
  · simp
  · cases env.callbacks.actionResultNotification
    · simp
    · simp

lemma resultTold_eq_nil (topic : DdsTopic) (actionName : Str) (u : UUID) :
    (∀ e ∈ resultTold env (data.message topic) dynType u actionName, e.isResult = false) ↔
      env.callbacks.actionResultNotification = false ∨ env.decode dynType data.payload = none := by
  have hpayload : (data.message topic).payload = data.payload := rfl
  unfold resultTold Message.prepareJsonData
  rw [hpayload]
  rcases env.decode dynType data.payload with _ | json
  · simp
  · cases env.callbacks.actionResultNotification
    · simp
    · simp [Event.isResult]

/-- The events of a result reply, and the goal whose result flag it raises. -/
def resultReplyEvents (env : Env) (topic : DdsTopic) (data : Sample) (dynType : DynType)
    (actionName : Str) (found : Option UUID) : List Event :=
  (match found with
    | some g => resultTold env (data.message topic) dynType g actionName
    | none => []) ++ [.erasedAction (found.getD env.garbageUuid) .result]

lemma addData_resultReply (env : Env) (h : IsResultReply topic data dynType actionName s)
    {found : Option UUID}
    (hfound : s.handler.getActionRequestUUID env.visitOrder data.relatedSequenceNumber .result =
      found) :
    ∃ t, (addData env topic data).run s = .ok () t ∧
      t.trace = s.trace ++ resultReplyEvents env topic data dynType actionName found ∧
      t.handler = s.count.handler.eraseActionUUID (found.getD env.garbageUuid) .result := by
  have hrelated : (relatedRequestId data).run s.count = .ok data.relatedSequenceNumber s.count := by
    simp [relatedRequestId, requireRpc, h.isRpc]
  have hread := readHandler_run s.count
    (·.getActionRequestUUID env.visitOrder data.relatedSequenceNumber .result)
  have hcount : s.count.handler.getActionRequestUUID env.visitOrder data.relatedSequenceNumber
      .result = found := hfound
  have hrun : (addData env topic data).run s = (addResultReply env (.ofTopic topic.topicName) data
      (data.message topic) dynType).run s.count := by
    rw [addData_run h.accepted]
    simp only [addKnownData, h.rpcType, addActionData, h.serviceType, h.actionType]
  rw [hrun]
  unfold addResultReply resultReplyEvents
  rw [run_bind_ok hrelated, run_bind_ok hread, hcount]
  rcases found with _ | g
  · exact ⟨_, eraseActionUUID_run s.count _ _, rfl, rfl⟩
  · simp only [h.action]
    have hwrite := writeActionResultNotification_eq env (data.message topic) dynType actionName g
      s.count
    rw [run_bind_ok hwrite]
    refine ⟨_, eraseActionUUID_run _ _ _, ?_, rfl⟩
    simp

lemma entry_erase_result (hopen : ∀ u i, s.handler.entry u = some i → i.IsOpen) (u : UUID) :
    (∀ v, (s.handler.eraseActionUUID u .result).entry v = s.handler.entry v) ↔
      ResultFlagged s u := by
  constructor
  · intro hsame i hi
    have hu := hsame u
    rw [Handler.entry_eraseActionUUID, if_pos rfl, hi, Option.bind_some] at hu
    unfold Handler.eraseFlag at hu
    split at hu
    · cases hu
    · simp only [ActionRequestInfo.erase, Option.some.injEq] at hu
      rw [← hu]
  · intro hflag v
    rw [Handler.entry_eraseActionUUID]
    split
    · next hv =>
      subst hv
      rcases hi : s.handler.entry v with _ | i
      · rfl
      · have hup := hflag i hi
        have hfinal : i.finalStatusReceived = false := by
          have := hopen v i hi
          rw [ActionRequestInfo.IsOpen, hup] at this
          simpa using this
        obtain ⟨_, _, _, _, _, _, received, final⟩ := i
        obtain rfl : received = true := hup
        obtain rfl : final = false := hfinal
        rfl
    · rfl

lemma changesNothing_iff (hopen : ∀ u i, s.handler.entry u = some i → i.IsOpen)
    (h : IsResultReply topic data dynType actionName s) :
    ChangesNothing env topic data s ↔ FlagsUp env data dynType s := by
  have hcount : ∀ u v, (s.count.handler.eraseActionUUID u .result).entry v =
      (s.handler.eraseActionUUID u .result).entry v := by
    intro u v
    rw [Handler.entry_eraseActionUUID, Handler.entry_eraseActionUUID]
    rfl
  -- the events and the entries, for each content of the local
  have hstep : ∀ found, s.handler.getActionRequestUUID env.visitOrder
      data.relatedSequenceNumber .result = found → ∀ garbage,
      ((∃ t, (addData { env with garbageUuid := garbage } topic data).run s = .ok () t ∧
        (∀ e ∈ newEvents s t, e.isResult = false) ∧ ∀ v, t.handler.entry v = s.handler.entry v) ↔
      (∀ e ∈ resultReplyEvents { env with garbageUuid := garbage } topic data dynType actionName
        found, e.isResult = false) ∧ ResultFlagged s (found.getD garbage)) := by
    intro found hfound garbage
    obtain ⟨t, hrun, htrace, hhandler⟩ :=
      addData_resultReply { env with garbageUuid := garbage } h hfound
    have hentry : (∀ v, t.handler.entry v = s.handler.entry v) ↔
        ResultFlagged s (found.getD garbage) := by
      rw [← entry_erase_result hopen, hhandler]
      exact forall_congr' fun v => by rw [hcount]
    rw [← hentry, ← newEvents_eq htrace]
    constructor
    · rintro ⟨t', hrun', hrest⟩
      rw [hrun] at hrun'
      cases hrun'
      exact hrest
    · exact fun hrest => ⟨t, hrun, hrest⟩
  unfold ChangesNothing FlagsUp
  rcases hfound : s.handler.getActionRequestUUID env.visitOrder data.relatedSequenceNumber .result
    with _ | g
  · simp only [hstep _ hfound, resultReplyEvents, Option.getD_none, List.nil_append]
    simp [Event.isResult]
  · have htold : ∀ garbage, (∀ e ∈ resultReplyEvents { env with garbageUuid := garbage } topic data
        dynType actionName (some g), e.isResult = false) ↔
        env.callbacks.actionResultNotification = false ∨
          env.decode dynType data.payload = none := by
      intro garbage
      rw [← resultTold_eq_nil topic actionName g]
      have hevents : resultReplyEvents { env with garbageUuid := garbage } topic data dynType
          actionName (some g) = resultTold env (data.message topic) dynType g actionName ++
            [.erasedAction g .result] := rfl
      rw [hevents, List.forall_mem_append]
      simp [Event.isResult]
    have hgarbage : Nonempty UUID := ⟨.null⟩
    simp only [hstep _ hfound, htold, Option.getD_some]
    rw [forall_const, and_comm]

end Reply

open RequestSystem in
/-- **A result reply that matches nothing changes nothing** only by luck: in every state reached,
a result reply changes nothing exactly if the flag it raises is up already, and no goal of
another action, or without a request for its result, is taken for its own and told to the
user. -/
theorem result_reply_inert_iff (participant : Participant)
    (schemas : Table Str (Nat × DynType)) (w : List RequestOp) (env : Env) (topic : DdsTopic)
    (data : Sample) (dynType : DynType) (actionName : Str)
    (h : IsResultReply topic data dynType actionName
      (run step (start participant schemas) w).state) :
    ChangesNothing env topic data (run step (start participant schemas) w).state ↔
      FlagsUp env data dynType (run step (start participant schemas) w).state :=
  changesNothing_iff (run_entriesOpen participant schemas w) h

/-! ### A reply that matches nothing -/

def resultReplyTopic : DdsTopic :=
  { topicName := "rr/fibonacci/_action/get_resultReply".toList }

/-- A reply to the request with the identifier zero. -/
def resultSample : Sample := ⟨[0], true, 0, [], [], true, 0⟩

def knownSchemas : Table Str (Nat × DynType) := (∅ : Table _ _).insert [] (0, ⟨[], 0⟩)

/-- A goal has been recorded, and its result has not been requested. -/
def recordedRun : RequestSystem :=
  run RequestSystem.step (RequestSystem.start {} knownSchemas)
    [.drawRequest Rendezvous.fibonacci .null .goal .ros2, .storeRequest .silent 0]

theorem result_reply_inert_iff_recorded :
    ChangesNothing .silent resultReplyTopic resultSample recordedRun.state ↔
      FlagsUp .silent resultSample ⟨[], 0⟩ recordedRun.state :=
  result_reply_inert_iff {} knownSchemas
    [.drawRequest Rendezvous.fibonacci .null .goal .ros2, .storeRequest .silent 0] .silent
    resultReplyTopic resultSample ⟨[], 0⟩ Rendezvous.fibonacci
    ⟨⟨⟨0, rfl⟩, rfl, rfl⟩, rfl, rfl, rfl, rfl, rfl⟩

/-- A reply to no request counts as the result of that goal. -/
theorem result_reply_not_inert :
    MatchesNothing recordedRun.state Rendezvous.fibonacci resultSample.relatedSequenceNumber ∧
      ¬ ChangesNothing .silent resultReplyTopic resultSample recordedRun.state := by
  refine ⟨fun u i _ _ hne => hne, fun hsame => ?_⟩
  have hreply : IsResultReply resultReplyTopic resultSample ⟨[], 0⟩ Rendezvous.fibonacci
      recordedRun.state := ⟨⟨⟨0, rfl⟩, rfl, rfl⟩, rfl, rfl, rfl, rfl, rfl⟩
  have hopen : recordedRun.EntriesOpen := RequestSystem.run_entriesOpen {} knownSchemas _
  have hflags := (changesNothing_iff hopen hreply).mp hsame
  have hfound : recordedRun.state.handler.getActionRequestUUID Env.silent.visitOrder
      resultSample.relatedSequenceNumber .result = some .null := rfl
  unfold FlagsUp at hflags
  rw [hfound] at hflags
  have hentry : recordedRun.state.handler.entry .null =
      some (.create Rendezvous.fibonacci .goal 1 .ros2 0) := rfl
  cases hflags.1 _ hentry

end DdsEnabler
