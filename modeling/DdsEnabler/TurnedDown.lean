import DdsEnabler.EarlyReply
import DdsEnabler.GoalRequests

/-!
Goals that are turned down, and what becomes of their entries.

A goal is turned down in three ways. As a server the enabler sends a refusal; as a client it is
told that the goal is rejected, or cannot request the result of one that was accepted. None of
them ends the goal in the map.
-/

namespace DdsEnabler

open Exec Runs Tables
open Rendezvous (fibonacci)

/-! ### Events -/

/-- The server sends a refusal of the goal. -/
def RefusedIn (es : List Event) (actionName : Str) (g : UUID) : Prop :=
  (∃ json time, .actionGoalRequestNotification actionName json g time ∈ es) ∧
    ∃ id, .sendActionSendGoalReply actionName id false ∈ es

/-- The client is told that the goal is rejected, or aborted. -/
def DeniedIn (es : List Event) (actionName : Str) (g : UUID) : Prop :=
  ∃ code message time, (code = .rejected ∨ code = .aborted) ∧
    .actionStatusNotification actionName g code message time ∈ es

def Event.isStatus : Event → Bool
  | .actionStatusNotification .. => true
  | _ => false

/-- What follows a decision and tells nobody of a status. -/
def Event.isAside (e : Event) : Bool := e.isFollowUp && !e.isStatus

lemma coversRequest_aside : CoversRequest Event.isAside where
  drawn _ := rfl
  published _ _ _ := rfl
  stored a u id ty protocol now hty := by
    rw [Event.isAside, coversRequest_followUp.stored a u id ty protocol now hty]
    rfl
  requested _ _ _ := rfl

/-- Something is told of no other goal, and of no other action, than these. -/
def Event.About (actionName : Str) (u : UUID) (e : Event) : Prop :=
  e.isAside ∨ ∃ code message time, e = .actionStatusNotification actionName u code message time

lemma replay_about {actionName : Str} {u v : UUID} {es : List Event}
    (h : ∀ e ∈ es, e.About actionName u) (i : Option ActionRequestInfo) :
    (replay v es i).map (·.goalKey) = i.map (·.goalKey) := by
  induction es generalizing i with
  | nil => rfl
  | cons e es ih =>
    have hentry : (e.onEntry v i).map (·.goalKey) = i.map (·.goalKey) := by
      rcases h e List.mem_cons_self with haside | ⟨code, message, time, rfl⟩
      · exact GoalClients.onEntry_followUp (Bool.and_eq_true_iff.mp haside).1 i
      · rfl
    rw [replay_cons, ih (fun e' he' => h e' (List.mem_cons_of_mem _ he')), hentry]

/-- The entry, if it is there, is of another action. -/
def InactiveEntry (actionName : Str) (i : Option ActionRequestInfo) : Prop :=
  ∀ j ∈ i, j.actionName ≠ actionName

lemma isUUIDActive_eq_false {h : Handler} {actionName : Str} {g : UUID} :
    h.isUUIDActive actionName g = false ↔ InactiveEntry actionName (h.entry g) := by
  rw [← Bool.not_eq_true, RequestSystem.isUUIDActive_iff]
  simp [InactiveEntry]

lemma setRequest_actionName (i : ActionRequestInfo) (id : Nat) (ty : ActionType) :
    (i.setRequest id ty).actionName = i.actionName := by
  cases ty <;> rfl

lemma create_actionName (actionName : Str) (ty : ActionType) (id : Nat) (p : Protocol)
    (now : Int) : (ActionRequestInfo.create actionName ty id p now).actionName = actionName := by
  unfold ActionRequestInfo.create
  rw [setRequest_actionName]

lemma onEntry_inactive {actionName : Str} {g : UUID} {e : Event} {i : Option ActionRequestInfo}
    (hi : InactiveEntry actionName i)
    (he : ∀ id p t, e ≠ .storedRequest actionName g id .goal p t) :
    InactiveEntry actionName (e.onEntry g i) := by
  intro j hj
  cases e with
  | storedRequest a v id ty p t =>
    simp only [Event.onEntry] at hj
    split at hj
    · next hv =>
      subst hv
      rcases i with _ | i
      · simp only [Handler.storeEntry] at hj
        split at hj
        · cases hj
        · next hty =>
          cases hj
          have hgoal : ty = .goal := by simpa using hty
          intro hname
          rw [create_actionName] at hname
          exact he id p t (by rw [hgoal, hname])
      · simp only [Handler.storeEntry] at hj
        split at hj
        · cases hj
          exact hi _ rfl
        · cases hj
          rw [setRequest_actionName]
          exact hi i rfl
    · exact hi j hj
  | resultSet v result =>
    simp only [Event.onEntry] at hj
    split at hj
    · obtain ⟨i', hi', rfl⟩ := Option.mem_map.mp hj
      have hname : (i'.setResult result).2.actionName = i'.actionName := by
        unfold ActionRequestInfo.setResult
        split <;> rfl
      rw [hname]
      exact hi i' hi'
    · exact hi j hj
  | erasedAction v reason =>
    simp only [Event.onEntry] at hj
    split at hj
    · obtain ⟨i', hi', hj'⟩ := Option.bind_eq_some_iff.mp hj
      unfold Handler.eraseFlag at hj'
      split at hj'
      · cases hj'
      · cases hj'
        cases reason <;> exact hi i' hi'
    · exact hi j hj
  | _ => exact hi j hj

lemma replay_inactive {actionName : Str} {g : UUID} {es : List Event}
    {i : Option ActionRequestInfo} (hi : InactiveEntry actionName i)
    (hes : ∀ id p t, .storedRequest actionName g id .goal p t ∉ es) :
    InactiveEntry actionName (replay g es i) := by
  induction es generalizing i with
  | nil => exact hi
  | cons e es ih =>
    rw [replay_cons]
    refine ih (onEntry_inactive hi fun id p t h => ?_) fun id p t h => ?_
    · exact hes id p t (h ▸ List.mem_cons_self)
    · exact hes id p t (List.mem_cons_of_mem _ h)

/-! ### The samples that turn down -/

section Samples

variable (env : Env) (topic : DdsTopic) (data : Sample) (s : State)

lemma keeps_about_goalReply (msg : Message) (dynType : DynType) (u : UUID) (actionName : Str) :
    Keeps (Tells (·.About actionName u))
      (writeActionGoalReplyNotification env msg dynType u actionName) := by
  have hnotify : ∀ code message, Keeps (Tells (·.About actionName u))
      (notifyStatus env msg actionName u code message) := by
    intro code message
    exact Keeps.notify fun s => ⟨[_], rfl, by simp [Event.About]⟩
  have hrequest : Keeps (Tells (·.About actionName u))
      (getResultRequestCallback env actionName u) := by
    intro s
    obtain ⟨sent, t, es, hrun, htrace, hes, -⟩ :=
      getResultRequestCallback_run coversRequest_aside env actionName u s
    rw [after_ok hrun]
    exact ⟨es, htrace, fun e he => .inl (hes e he)⟩
  unfold writeActionGoalReplyNotification
  split
  · exact Keeps.pure _
  · refine (Keeps.lift _).bind fun accepted => (hnotify _ _).bind fun _ => ?_
    refine Keeps.ite (hrequest.bind fun sent => ?_) (Keeps.pure _)
    exact Keeps.ite (hnotify _ _) (Keeps.pure _)

lemma addGoalReply_cases (info : RpcInfo) (msg : Message) (dynType : DynType) :
    after (addGoalReply env info data msg dynType) s = s ∨
      ∃ u i, s.handler.entry u = some i ∧
        Tells (·.About info.actionName u) s (after (addGoalReply env info data msg dynType) s) := by
  unfold addGoalReply
  by_cases hdata : data.isRpc
  · have hrelated : (relatedRequestId data).run s = .ok data.relatedSequenceNumber s := by
      simp [relatedRequestId, requireRpc, hdata]
    rw [after_bind_ok hrelated, after_bind_ok (readHandler_run s _)]
    rcases hu : s.handler.getActionRequestUUID env.visitOrder data.relatedSequenceNumber .goal
      with _ | u
    · exact .inl rfl
    · obtain ⟨i, hi, -⟩ := mem_of_scan hu
      have hentry : s.handler.entry u = some i :=
        mem_entries.mp ((env.visitOrder.perm _).mem_iff.mp hi)
      exact .inr ⟨u, i, hentry, keeps_about_goalReply env msg dynType u info.actionName s⟩
  · have hrelated : (relatedRequestId data).run s = .error .badCast s := by
      simp [relatedRequestId, requireRpc, hdata]
    left
    rw [after_error (run_bind_error hrelated)]

lemma newEvents_unaccepted (h : ¬ ∃ dynType, data.Accepted topic dynType s) :
    newEvents s (after (addData env topic data) s) = [] := by
  have hnone : ∀ t : State, t.trace = s.trace → newEvents s t = [] :=
    fun t ht => newEvents_eq (by simp [ht])
  unfold addData
  rw [after_bind_ok (readHandler_run s _)]
  rcases hschema : s.handler.schemas.lookup topic.typeName with _ | ⟨typeId, dynType⟩
  · exact hnone s rfl
  · change newEvents s (after (onHandler _ >>= _) s) = []
    rw [after_bind_ok (onHandler_run s _)]
    by_cases hdata : (data.payload.isEmpty || !data.hasOwner) = true
    · rw [if_pos hdata]
      exact hnone _ rfl
    · have hdata' : data.payload.isEmpty = false ∧ data.hasOwner = true := by simpa using hdata
      exact absurd ⟨dynType, ⟨typeId, hschema⟩, hdata'.1, hdata'.2⟩ h

lemma goalReply_cases (hrpc : (RpcInfo.ofTopic topic.topicName).rpcType = .action)
    (hservice : (RpcInfo.ofTopic topic.topicName).serviceType = .reply)
    (haction : (RpcInfo.ofTopic topic.topicName).actionType = .goal) :
    newEvents s (after (addData env topic data) s) = [] ∨
      ∃ u i, s.handler.entry u = some i ∧
        Tells (·.About (RpcInfo.ofTopic topic.topicName).actionName u) s
          (after (addData env topic data) s) := by
  by_cases hacc : ∃ dynType, data.Accepted topic dynType s
  · obtain ⟨dynType, hacc⟩ := hacc
    have hrun : after (addData env topic data) s = after (addGoalReply env
        (.ofTopic topic.topicName) data (data.message topic) dynType) s.count := by
      simp only [after, addData_run hacc, addKnownData, hrpc, addActionData, hservice, haction]
    rw [hrun]
    refine (addGoalReply_cases env data s.count _ _ dynType).imp (fun h => ?_) id
    rw [h]
    exact newEvents_eq (by simp)
  · exact .inl (newEvents_unaccepted env topic data s hacc)

lemma goalRequest_cases (hrpc : (RpcInfo.ofTopic topic.topicName).rpcType = .action)
    (hservice : (RpcInfo.ofTopic topic.topicName).serviceType = .request)
    (haction : (RpcInfo.ofTopic topic.topicName).actionType = .goal) :
    goalReplies (newEvents s (after (addData env topic data) s)) = [] ∨
      ∃ dynType u, s.handler.entry u = none ∧ IsActionRequest env topic data dynType
        (RpcInfo.ofTopic topic.topicName).actionName .goal u s := by
  have hstamps : goalReplies (newEvents s s.stamped) = [] := by
    rw [newEvents_eq (stamped_trace s)]
    rfl
  by_cases hacc : ∃ dynType, data.Accepted topic dynType s
  swap
  · rw [newEvents_unaccepted env topic data s hacc]
    exact .inl rfl
  obtain ⟨dynType, hacc⟩ := hacc
  have hrun : after (addData env topic data) s = after (addActionRequest env
      (.ofTopic topic.topicName) data (data.message topic) dynType) s.count := by
    simp only [after, addData_run hacc, addKnownData, hrpc, addActionData, hservice, haction]
  by_cases hdata : data.isRpc
  · have hstamp : (stampRequest data).run s.count = .ok s.handler.nextRequestId.1 s.stamped := by
      rw [stampRequest_run, if_pos hdata]
      rfl
    rcases huuid : uuidFromRequestJson env (data.message topic) dynType with e | _ | u
    · left
      rw [hrun, addActionRequest, after_bind_ok hstamp, huuid]
      exact hstamps
    · left
      rw [hrun, addActionRequest, after_bind_ok hstamp, huuid]
      exact hstamps
    · have h : IsActionRequest env topic data dynType
          (RpcInfo.ofTopic topic.topicName).actionName .goal u s :=
        ⟨hacc, huuid, hdata, hrpc, hservice, haction, rfl⟩
      rcases hu : s.handler.entry u with _ | i
      · exact .inr ⟨dynType, u, hu, h⟩
      · left
        rw [after_ok (goalRequest_run_some h hu)]
        exact hstamps
  · left
    have hstamp : (stampRequest data).run s.count = .error .badCast s.count.draw := by
      rw [stampRequest_run, if_neg hdata]
    rw [hrun, addActionRequest, after_error (run_bind_error hstamp)]
    have hdraw : s.count.draw.trace = s.trace ++ [.newRequestId s.handler.nextRequestId.1] := rfl
    rw [newEvents_eq hdraw]
    rfl

end Samples

/-! ### Runs -/

namespace RequestSystem

/-- The step turns a goal of the action down: the user refuses it and its request is answered so,
or the reply to its request has the user told that it is rejected or aborted. -/
def TurnsDown (s : RequestSystem) (op : RequestOp) (actionName : Str) (g : UUID) : Prop :=
  match op with
  | .addData env topic data =>
    let info := RpcInfo.ofTopic topic.topicName
    let es := newEvents s.state (after (DdsEnabler.addData env topic data) s.state)
    info.rpcType = .action ∧ info.actionType = .goal ∧
      (info.serviceType = .request ∧ RefusedIn es actionName g ∨
        info.serviceType = .reply ∧ DeniedIn es actionName g)
  | _ => False

/-- The goal is not active, and it stays so until it is recorded again. -/
def StaysInactive (s : RequestSystem) (actionName : Str) (g : UUID) : Prop :=
  ∀ w, (∀ id p t, .storedRequest actionName g id .goal p t ∉
      newEvents s.state (run step s w).state) →
    (run step s w).state.handler.isUUIDActive actionName g = false

/-- A goal that the step turns down is forgotten. -/
def Forgets (s : RequestSystem) (op : RequestOp) : Prop :=
  ∀ actionName g, TurnsDown s op actionName g → StaysInactive (s.step op) actionName g

/-- A goal that the step turns down for an action is recorded for another one. -/
def Elsewhere (s : RequestSystem) (op : RequestOp) : Prop :=
  ∀ actionName g, TurnsDown s op actionName g →
    ∃ i, s.state.handler.entry g = some i ∧ i.actionName ≠ actionName

variable {s : RequestSystem} {op : RequestOp} {actionName : Str} {g : UUID}

lemma staysInactive_iff :
    StaysInactive s actionName g ↔ InactiveEntry actionName (s.state.handler.entry g) := by
  constructor
  · intro h
    have hnil : newEvents s.state s.state = [] := newEvents_eq (by simp)
    exact isUUIDActive_eq_false.mp (h [] (by simp [hnil]))
  · intro h w hw
    obtain ⟨new, htrace, hentry⟩ := run_replays s w
    rw [newEvents_eq htrace] at hw
    rw [isUUIDActive_eq_false, hentry]
    exact replay_inactive h hw

lemma mem_goalRequestTold {env : Env} {a : Str} {u : UUID} {json json' : Json} {time time' : Int}
    (h : .actionGoalRequestNotification actionName json g time ∈
      goalRequestTold env a u json' time') : actionName = a ∧ g = u := by
  unfold goalRequestTold at h
  split at h
  · cases List.mem_singleton.mp h
    exact ⟨rfl, rfl⟩
  · cases h

/-- A refused goal has just been recorded, and stays. -/
lemma refused_active {env : Env} {topic : DdsTopic} {data : Sample} {s : State}
    (hrpc : (RpcInfo.ofTopic topic.topicName).rpcType = .action)
    (haction : (RpcInfo.ofTopic topic.topicName).actionType = .goal)
    (hservice : (RpcInfo.ofTopic topic.topicName).serviceType = .request)
    (h : RefusedIn (newEvents s (after (addData env topic data) s)) actionName g) :
    s.handler.entry g = none ∧
      ∃ i, (after (addData env topic data) s).handler.entry g = some i ∧
        i.actionName = actionName := by
  obtain ⟨⟨json, time, htold⟩, id, hreply⟩ := h
  have hmem : (actionName, id, false) ∈
      goalReplies (newEvents s (after (addData env topic data) s)) :=
    List.mem_filterMap.mpr ⟨_, hreply, rfl⟩
  rcases goalRequest_cases env topic data s hrpc hservice haction with hnone | ⟨_, u, hu, hreq⟩
  · rw [hnone] at hmem
    cases hmem
  · obtain ⟨json', hjson, -⟩ := uuidFromRequestJson_some hreq.uuid
    obtain ⟨t, hrun, hentry, htrace⟩ := goalRequest_run_none hreq hu hjson
    rw [after_ok hrun] at htold ⊢
    rw [newEvents_eq htrace] at htold
    have hpub : ∀ name reply id, .actionGoalRequestNotification actionName json g time ∉
        s.replyEvents env name reply id := by
      intro name reply id hmem
      rw [← filter_replyEvents] at hmem
      simp [Event.isPublication] at hmem
    have hmem : .actionGoalRequestNotification actionName json g time ∈
        goalRequestTold env (RpcInfo.ofTopic topic.topicName).actionName u json'
          data.sourceTimestamp := by
      simpa [stampEvents, hpub] using htold
    obtain ⟨rfl, rfl⟩ := mem_goalRequestTold hmem
    exact ⟨hu, _, hentry, create_actionName _ _ _ _ _⟩

lemma denied_entry {env : Env} {topic : DdsTopic} {data : Sample} {s : State}
    (hrpc : (RpcInfo.ofTopic topic.topicName).rpcType = .action)
    (haction : (RpcInfo.ofTopic topic.topicName).actionType = .goal)
    (hservice : (RpcInfo.ofTopic topic.topicName).serviceType = .reply)
    (h : DeniedIn (newEvents s (after (addData env topic data) s)) actionName g) :
    ∃ i j, s.handler.entry g = some i ∧
      (after (addData env topic data) s).handler.entry g = some j ∧
        j.actionName = i.actionName := by
  obtain ⟨code, message, time, -, htold⟩ := h
  rcases goalReply_cases env topic data s hrpc hservice haction with
    hnone | ⟨u, i, hi, es, htrace, hes⟩
  · rw [hnone] at htold
    cases htold
  · rw [newEvents_eq htrace] at htold
    rcases hes _ htold with haside | ⟨code', message', time', heq⟩
    · simp [Event.isAside, Event.isStatus] at haside
    · cases heq
      obtain ⟨o, new, hstep⟩ := received_evolves (received_addData env data topic s)
      obtain rfl : new = es := List.append_cancel_left (hstep.trace.symm.trans htrace)
      have hkey := replay_about (v := g) hes (some i)
      rw [← hi, ← hstep.entry g, hi, Option.map_some, Option.map_eq_some_iff] at hkey
      obtain ⟨j, hj, hkey⟩ := hkey
      exact ⟨i, j, hi, hj, congrArg Prod.fst hkey⟩

lemma turnsDown_staysInactive (h : TurnsDown s op actionName g) :
    StaysInactive (s.step op) actionName g ↔
      ∃ i, s.state.handler.entry g = some i ∧ i.actionName ≠ actionName := by
  rw [staysInactive_iff]
  cases op with
  | addData env topic data =>
    obtain ⟨hrpc, haction, ⟨hservice, href⟩ | ⟨hservice, hden⟩⟩ := h
    · obtain ⟨hnone, i, hi, hname⟩ := refused_active hrpc haction hservice href
      change InactiveEntry actionName
        ((after (DdsEnabler.addData env topic data) s.state).handler.entry g) ↔ _
      simp [InactiveEntry, hi, hname, hnone]
    · obtain ⟨i, j, hi, hj, hname⟩ := denied_entry hrpc haction hservice hden
      change InactiveEntry actionName
        ((after (DdsEnabler.addData env topic data) s.state).handler.entry g) ↔ _
      simp [InactiveEntry, hi, hj, hname]
  | _ => exact h.elim

/-- **Goals that were turned down do not stay active** in exactly the runs in which every goal
that is turned down for an action is recorded for another one: nothing erases its entry. -/
theorem turned_down_inactive_iff (participant : Participant)
    (schemas : Table Str (Nat × DynType)) (w : List RequestOp) :
    Along step Forgets (start participant schemas) w ↔
      Along step Elsewhere (start participant schemas) w := by
  have hstep : ∀ s op, Forgets s op ↔ Elsewhere s op := fun s op =>
    forall₂_congr fun a g => imp_congr_right fun h => turnsDown_staysInactive h
  have hall : Along step (fun _ _ => True) (start participant schemas) w :=
    along_of_forall (fun _ _ => trivial) _ w
  exact along_iff_of_inv (I := fun _ => True) (fun _ _ _ _ _ => trivial)
    (fun s op _ _ => hstep s op) trivial hall

/-- The user refuses every goal. -/
def refusingEnv : Env :=
  { nullGoalEnv with callbacks :=
      { nullGoalEnv.callbacks with
        actionGoalRequestNotification := some fun _ _ _ _ => false } }

/-- A participant that knows the topics of the goal service. -/
def goalServer : Participant :=
  (after (createReader .silent { topicName := "rr/fibonacci/_action/send_goalReply".toList })
    (after (createReader .silent goalRequestTopic) knownState)).participant

/-- The first request is for a goal that the user refuses. The refusal is sent, and the goal stays
active. -/
theorem refused_goal_active :
    .publishedRpc "rr/fibonacci/_action/send_goalReply".toList
        (.doc (RpcUtils.createGoalReplyMsg false 0)) 1 ∈
      ((start goalServer knownState.handler.schemas).step
        (.addData refusingEnv goalRequestTopic requestSample)).state.trace ∧
    ¬ Along step Forgets (start goalServer knownState.handler.schemas)
      [.addData refusingEnv goalRequestTopic requestSample] := by
  refine ⟨List.mem_of_getElem? (i := 4) rfl, ?_⟩
  rintro ⟨hforgets, -⟩
  set s : State := (start goalServer knownState.handler.schemas).state with hs
  have hnull := nullGoal_request (s := s) rfl
  have hreq : IsActionRequest refusingEnv goalRequestTopic requestSample ⟨[], 0⟩ fibonacci .goal
      .null s :=
    ⟨hnull.accepted, hnull.uuid, rfl, rfl, rfl, rfl, rfl⟩
  obtain ⟨json, hjson, -⟩ := uuidFromRequestJson_some hreq.uuid
  obtain ⟨t, hrun, -, htrace⟩ := goalRequest_run_none hreq rfl hjson
  have hdown : TurnsDown (start goalServer knownState.handler.schemas)
      (.addData refusingEnv goalRequestTopic requestSample) fibonacci .null := by
    refine ⟨rfl, rfl, .inl ⟨rfl, ?_⟩⟩
    change RefusedIn (newEvents s (after (DdsEnabler.addData refusingEnv goalRequestTopic
      requestSample) s)) fibonacci .null
    rw [after_ok hrun, newEvents_eq htrace]
    refine ⟨⟨json, requestSample.sourceTimestamp, ?_⟩, s.handler.nextRequestId.1, ?_⟩
    · simp [goalRequestTold, refusingEnv]
    · simp [storedDecision, refusingEnv]
  obtain ⟨i, hi, -⟩ := (turnsDown_staysInactive hdown).mp (hforgets fibonacci .null hdown)
  cases hi

end RequestSystem

end DdsEnabler
