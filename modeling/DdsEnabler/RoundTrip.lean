import DdsEnabler.EarlyReply

/-!
The messages of actions, from the side that builds them to the user of the other side.

A builder and the reader of its message agree on the paths, on the bytes of an identifier and
on the numbers of the codes. The transport is taken to preserve the JSON: the payload of a
message decodes to what was built.
-/

namespace DdsEnabler

open Exec RpcUtils

/-! ### Codes -/

/-- A value of the enumeration: those with a name, and the other numbers of its `int`. -/
structure StatusCode.Valid (c : StatusCode) : Prop where
  canonical : .ofInt c.toInt = c
  lower : -2 ^ 31 ≤ c.toInt
  upper : c.toInt < 2 ^ 31

lemma StatusCode.valid_of_named {c : StatusCode} (h : ∀ n, c ≠ .other n) : c.Valid := by
  cases c with
  | other n => exact absurd rfl (h n)
  | _ => exact ⟨rfl, by simp [toInt], by simp [toInt]⟩

/-- The status that a client is told for the return code of a cancel reply. -/
def CancelCode.status : CancelCode → StatusCode × String
  | .none => (.canceled, "Action canceled successfully")
  | .rejected => (.rejected, "Action cancel request rejected")
  | .unknownGoalId => (.cancelRequestFailed, "Action cancel request unknown goal ID")
  | .goalTerminated =>
    (.cancelRequestFailed, "Action cancel request rejected as goal was already terminated")

lemma cancelReplyStatus_toInt (c : CancelCode) : cancelReplyStatus c.toInt = c.status := by
  cases c <;> rfl

/-! ### Fields -/

variable {env : Env} {msg : Message} {dynType : DynType}

lemma catchJson_ok {α : Type} {r : Except Exc α} {a : α} (h : r = .ok a) :
    catchJson (r.map some) none = .ok (some a) := by
  rw [h]
  rfl

lemma getArithmetic_int {w : Nat} {n : Int} (hl : -2 ^ w ≤ n) (hu : n < 2 ^ w) :
    (Json.int n).getArithmetic (w + 1) = .ok n := by
  have hw : (2 : Int) ^ (w + 1) = 2 * 2 ^ w := by rw [pow_succ, mul_comm]
  have hmod : n.bmod (2 ^ (w + 1)) = n := by
    refine Int.bmod_eq_of_le ?_ ?_
    · push_cast
      omega
    · push_cast
      omega
  simp [Json.getArithmetic, Json.toInt?, hmod]

lemma statusUuid_entry (u : UUID) (c : StatusCode) (t : Int) :
    statusUuid (.obj [("goal_info".toList, .obj [goalId u, stamp t]),
      ("status".toList, .int c.toInt)]) = .ok u :=
  jsonToUuid_uuidJson u

lemma statusCodeOf_entry (u : UUID) {c : StatusCode} (hc : c.Valid) (t : Int) :
    statusCodeOf (.obj [("goal_info".toList, .obj [goalId u, stamp t]),
      ("status".toList, .int c.toInt)]) = .ok c := by
  have hint : (Json.int c.toInt).getArithmetic 32 = .ok c.toInt :=
    getArithmetic_int hc.lower hc.upper
  have hindex : (Json.obj [("goal_info".toList, .obj [goalId u, stamp t]),
      ("status".toList, .int c.toInt)]).indexConst "status".toList = .ok (.int c.toInt) := rfl
  unfold statusCodeOf
  rw [hindex]
  change ((Json.int c.toInt).getArithmetic 32).bind (fun n => .ok (StatusCode.ofInt n)) = _
  rw [hint]
  exact congrArg Except.ok hc.canonical

lemma goalId_entry (u : UUID) (t : Int) :
    ((Json.obj [goalId u, stamp t]).indexConst "goal_id".toList).bind jsonToUuid = .ok u :=
  jsonToUuid_uuidJson u

/-- What the user is told of a status. -/
def statusTold (env : Env) (msg : Message) (actionName : Str) (u : UUID)
    (status : StatusCode × String) : List Event :=
  if env.callbacks.actionStatusNotification then
    [.actionStatusNotification actionName u status.1 status.2 msg.publishTime]
  else []

lemma notifyStatus_run (env : Env) (msg : Message) (actionName : Str) (u : UUID)
    (status : StatusCode × String) (s : State) :
    (notifyStatus env msg actionName u status.1 status.2).run s =
      .ok () (s.log (statusTold env msg actionName u status)) := by
  unfold notifyStatus statusTold
  cases env.callbacks.actionStatusNotification <;> simp

/-! ### Messages -/

lemma read_goalRequest {u : UUID} {v d : Json} (hd : createGoalRequestMsg (.doc v) u = .ok d)
    (hm : env.decode dynType msg.payload = some d) :
    uuidFromRequestJson env msg dynType = .ok (some u) := by
  cases hd
  exact uuidFromRequestJson_goalId rfl hm

lemma read_resultRequest {u : UUID}
    (hm : env.decode dynType msg.payload = some (createResultRequestMsg u)) :
    uuidFromRequestJson env msg dynType = .ok (some u) :=
  uuidFromRequestJson_goalId rfl hm

variable (msg) in
lemma feedbackOf_wrap {u : UUID} {v d : Json} (hd : createFeedbackMsg (.doc v) u = .ok d) :
    feedbackOf msg (msg.wrap d) = .ok (u, v) := by
  cases hd
  have hid : goalIdOf msg (msg.wrap (.obj [("feedback".toList, v), goalId u])) = .ok u := by
    rw [goalIdOf_wrap]
    exact jsonToUuid_uuidJson u
  unfold feedbackOf
  rw [hid, Message.dataOf_wrap]
  rfl

/-- **Feedback survives.** -/
lemma read_feedback {u : UUID} {v d : Json} (actionName : Str) (s : State)
    (hd : createFeedbackMsg (.doc v) u = .ok d)
    (hm : env.decode dynType msg.payload = some d) :
    (writeActionFeedbackNotification env msg dynType actionName).run s =
      .ok () (s.log (if env.callbacks.actionFeedbackNotification then
        [.actionFeedbackNotification actionName v u msg.publishTime] else [])) := by
  have hread := catchJson_ok (feedbackOf_wrap msg hd)
  unfold writeActionFeedbackNotification
  rw [prepareJsonData_of_decode hm]
  cases env.callbacks.actionFeedbackNotification
  · simp
  · simp [hread]

variable (msg) in
lemma acceptedOf_wrap (b : Bool) (now : Int) :
    acceptedOf msg (msg.wrap (createGoalReplyMsg b now)) = .ok b := by
  unfold acceptedOf
  rw [Message.dataOf_wrap]
  rfl

/-- **Decisions survive.** The user is told of the decision first; a refused goal has nothing
else to come. -/
lemma read_goalReply {b : Bool} {now : Int} (u : UUID) (actionName : Str) (s : State)
    (hm : env.decode dynType msg.payload = some (createGoalReplyMsg b now)) :
    ∃ t es, (writeActionGoalReplyNotification env msg dynType u actionName).run s = .ok () t ∧
      t.trace = s.trace ++ statusTold env msg actionName u (goalReplyStatus (some b)) ++ es ∧
      (b = false → es = []) := by
  have hread := catchJson_ok (acceptedOf_wrap msg b now)
  have htell := notifyStatus_run env msg actionName u (goalReplyStatus (some b)) s
  unfold writeActionGoalReplyNotification
  simp only [prepareJsonData_of_decode hm, hread, lift_ok, pure_bind]
  rw [run_bind_ok htell]
  cases b with
  | false =>
    refine ⟨_, [], rfl, ?_, fun _ => rfl⟩
    rw [log_trace, List.append_nil]
  | true =>
    obtain ⟨sent, t, es, hcb, htrace, -⟩ :=
      getResultRequestCallback_run coversRequest_followUp env actionName u
      (s.log (statusTold env msg actionName u (goalReplyStatus (some true))))
    rw [log_trace] at htrace
    change ∃ t' es', (getResultRequestCallback env actionName u >>= _ : M Unit).run _ = _ ∧ _
    rw [run_bind_ok hcb]
    cases sent with
    | true => exact ⟨t, es, rfl, htrace, by simp⟩
    | false =>
      have habort := notifyStatus_run env msg actionName u (.aborted, "Action goal aborted") t
      refine ⟨_, es ++ statusTold env msg actionName u (.aborted, "Action goal aborted"),
        habort, ?_, by simp⟩
      rw [log_trace, htrace, List.append_assoc]

/-- **Statuses survive**, of the goals that are active. -/
lemma read_status {u : UUID} {c : StatusCode} {stamp : Int} (hc : c.Valid) (actionName : Str)
    (s : State) (hm : env.decode dynType msg.payload = some (createStatusMsg u c stamp)) :
    ∃ t, (writeActionStatusNotification env msg dynType actionName).run s = .ok () t ∧
      t.trace = s.trace ++ if s.handler.isUUIDActive actionName u then
        (if c.isFinal then [.erasedAction u .finalStatus] else []) ++
          statusTold env msg actionName u (c, statusMessage c)
      else [] := by
  have hlist : (msg.dataOf (msg.wrap (createStatusMsg u c stamp))).bind
      (·.index "status_list".toList) = .ok (.arr [.obj
        [("goal_info".toList, .obj [goalId u, RpcUtils.stamp stamp]),
         ("status".toList, .int c.toInt)]]) := by
    rw [Message.dataOf_wrap]
    rfl
  have huuid := catchJson_ok (statusUuid_entry u c stamp)
  have hcode := catchJson_ok (statusCodeOf_entry u hc stamp)
  have htell := notifyStatus_run env msg actionName u (c, statusMessage c)
  unfold writeActionStatusNotification
  simp only [prepareJsonData_of_decode hm, catchJson_ok hlist, lift_ok, pure_bind,
    Json.elements]
  unfold writeStatusList
  simp only [huuid, lift_ok, pure_bind]
  rw [EStateM.run_bind, readHandler_run]
  rcases hactive : s.handler.isUUIDActive actionName u
  · exact ⟨s, rfl, by simp⟩
  · simp only [if_true, hcode, lift_ok, pure_bind]
    rcases hfin : c.isFinal
    · refine ⟨_, run_bind_ok (htell s), ?_⟩
      simp
    · refine ⟨_, (run_bind_ok (eraseActionUUID_run s u .finalStatus)).trans
        (run_bind_ok (htell _)), ?_⟩
      simp

lemma writeCancelledGoals_run (env : Env) (msg : Message) (actionName : Str)
    (status : StatusCode × String) (goals : List (UUID × Int)) (s : State) :
    (writeCancelledGoals env msg actionName status
        (goals.map fun g => .obj [goalId g.1, stamp g.2])).run s =
      .ok () (s.log (((goals.map (·.1)).filter (s.handler.isUUIDActive actionName)).flatMap
        fun u => statusTold env msg actionName u status)) := by
  induction goals generalizing s with
  | nil => simp [writeCancelledGoals]
  | cons g goals ih =>
    have hid := catchJson_ok (goalId_entry g.1 g.2)
    have hnext : ∀ es, (s.log es).handler = s.handler := fun _ => rfl
    simp only [List.map_cons]
    unfold writeCancelledGoals
    simp only [hid, lift_ok, pure_bind]
    rw [EStateM.run_bind, readHandler_run]
    rcases hactive : s.handler.isUUIDActive actionName g.1
    · simp only [Bool.false_eq_true, if_false, ih s]
      rw [List.filter_cons_of_neg (by simp [hactive])]
    · simp only [if_true]
      rw [run_bind_ok (notifyStatus_run env msg actionName g.1 status s), ih, log_log, hnext,
        List.filter_cons_of_pos hactive, List.flatMap_cons]

/-- **Cancelled goals survive**, those that are active, in their order. -/
lemma read_cancelReply {goals : List (UUID × Int)} {code : CancelCode} (actionName : Str)
    (s : State) (hm : env.decode dynType msg.payload = some (createCancelReplyMsg goals code)) :
    (writeActionCancelReplyNotification env msg dynType actionName).run s =
      .ok () (s.log (((goals.map (·.1)).filter (s.handler.isUUIDActive actionName)).flatMap
        fun u => statusTold env msg actionName u code.status)) := by
  have hcode : returnCodeOf msg (msg.wrap (createCancelReplyMsg goals code)) =
      .ok code.toInt := by
    unfold returnCodeOf
    rw [Message.dataOf_wrap]
    cases code <;> rfl
  have hgoals : (msg.dataOf (msg.wrap (createCancelReplyMsg goals code))).bind
      (·.index "goals_canceling".toList) =
        .ok (.arr (goals.map fun g => .obj [goalId g.1, stamp g.2])) := by
    rw [Message.dataOf_wrap]
    rfl
  unfold writeActionCancelReplyNotification
  simp only [prepareJsonData_of_decode hm, catchJson_ok hcode, catchJson_ok hgoals, lift_ok,
    pure_bind, Json.elements, cancelReplyStatus_toInt]
  exact writeCancelledGoals_run env msg actionName code.status goals s

/-- What the side that receives `msg` gets out of the message that was built. -/
structure RoundTrips (env : Env) (msg : Message) (dynType : DynType) (actionName : Str) :
    Prop where
  goalRequest : ∀ u v, ∃ d, createGoalRequestMsg (.doc v) u = .ok d ∧
    (env.decode dynType msg.payload = some d →
      uuidFromRequestJson env msg dynType = .ok (some u))
  resultRequest : ∀ u, env.decode dynType msg.payload = some (createResultRequestMsg u) →
    uuidFromRequestJson env msg dynType = .ok (some u)
  feedback : ∀ u v s, ∃ d, createFeedbackMsg (.doc v) u = .ok d ∧
    (env.decode dynType msg.payload = some d →
      (writeActionFeedbackNotification env msg dynType actionName).run s =
        .ok () (s.log (if env.callbacks.actionFeedbackNotification then
          [.actionFeedbackNotification actionName v u msg.publishTime] else [])))
  /-- A final status is noted before the user is told. -/
  status : ∀ u (c : StatusCode) stamp s, c.Valid →
    env.decode dynType msg.payload = some (createStatusMsg u c stamp) →
    ∃ t, (writeActionStatusNotification env msg dynType actionName).run s = .ok () t ∧
      t.trace = s.trace ++ if s.handler.isUUIDActive actionName u then
        (if c.isFinal then [.erasedAction u .finalStatus] else []) ++
          statusTold env msg actionName u (c, statusMessage c)
      else []
  /-- After the decision, only the result of an accepted goal is requested. -/
  goalReply : ∀ u b now s,
    env.decode dynType msg.payload = some (createGoalReplyMsg b now) →
    acceptedOf msg (msg.wrap (createGoalReplyMsg b now)) = .ok b ∧
      ∃ t es, (writeActionGoalReplyNotification env msg dynType u actionName).run s = .ok () t ∧
        t.trace = s.trace ++
          statusTold env msg actionName u (if b then (.accepted, "Action goal accepted")
            else (.rejected, "Action goal rejected")) ++ es ∧
        (b = false → es = [])
  cancelReply : ∀ goals (code : CancelCode) s,
    env.decode dynType msg.payload = some (createCancelReplyMsg goals code) →
    (writeActionCancelReplyNotification env msg dynType actionName).run s =
      .ok () (s.log (((goals.map (·.1)).filter (s.handler.isUUIDActive actionName)).flatMap
        fun u => statusTold env msg actionName u code.status))

/-- **Action messages round-trip.** Whatever is put into a message of an action, the other side
gets it out of it. -/
theorem action_messages_round_trip (env : Env) (msg : Message) (dynType : DynType)
    (actionName : Str) : RoundTrips env msg dynType actionName where
  goalRequest u v := ⟨_, rfl, read_goalRequest rfl⟩
  resultRequest u := read_resultRequest
  feedback u v s := ⟨_, rfl, read_feedback actionName s rfl⟩
  status u c stamp s hc := read_status hc actionName s
  goalReply u b now s hm := by
    refine ⟨acceptedOf_wrap _ b now, ?_⟩
    obtain ⟨t, es, hrun, htrace, hes⟩ := read_goalReply u actionName s hm
    refine ⟨t, es, hrun, ?_, hes⟩
    cases b
    · exact htrace
    · exact htrace
  cancelReply goals code s := read_cancelReply actionName s

end DdsEnabler
