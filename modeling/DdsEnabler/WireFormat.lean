import DdsEnabler.Writer

/-!
The messages of actions on the wire: what one side builds, the other reads.

A goal identifier written by `uuidJson` is read back by `jsonToUuid`, and so is every message
that has its `goal_id` at the top: goal requests, result requests and feedback. The cancel
request has it inside `goal_info`, where the writer does not look.
-/

namespace DdsEnabler

open RpcUtils

/-! ### Identifiers -/

lemma readBytes_bytes (b : List UInt8) :
    ∃ h, readBytes (b.map fun x => .int x.toNat) = .ok ⟨b, h⟩ := by
  induction b with
  | nil => exact ⟨rfl, rfl⟩
  | cons x b ih =>
    obtain ⟨h, ih⟩ := ih
    have hx : (Json.int x.toNat).getUnsigned 8 = .ok x.toNat := by
      have hlt := x.toNat_lt
      simp only [Json.getUnsigned, Json.toInt?, Except.ok.injEq]
      omega
    refine ⟨by simp, ?_⟩
    change readBytes (.int x.toNat :: b.map fun x => .int x.toNat) = _
    unfold readBytes
    rw [hx, ih]
    simp

/-- **Identifiers survive.** What is written for an identifier reads back as it. -/
theorem jsonToUuid_uuidJson (u : UUID) :
    jsonToUuid (.obj [("uuid".toList, uuidJson u)]) = .ok u := by
  obtain ⟨h, hb⟩ := readBytes_bytes u.bytes
  have hsize : (u.bytes.map fun b => Json.int b.toNat).length = 16 := by
    rw [List.length_map, u.size]
  have hlookup : List.lookup "uuid".toList [("uuid".toList, uuidJson u)] =
      some (.arr (u.bytes.map fun b => .int b.toNat)) := by
    simp [uuidJson]
  unfold jsonToUuid
  simp only [hlookup]
  rw [dif_pos hsize, hb]
  rfl

variable {env : Env} {msg : Message} {dynType : DynType} {data : Json}

lemma prepareJsonData_of_decode (h : env.decode dynType msg.payload = some data) :
    msg.prepareJsonData env dynType = some (msg.wrap data) := by
  rw [Message.prepareJsonData, h, Option.map_some]

lemma goalId_eq (u : UUID) :
    goalId u = ("goal_id".toList, .obj [("uuid".toList, uuidJson u)]) := rfl

/-- **Goal identifiers survive.** A message with its `goal_id` at the top is a request of
that goal. -/
theorem uuidFromRequestJson_goalId {l : List (Str × Json)} {u : UUID}
    (hl : l.lookup "goal_id".toList = some (goalId u).2)
    (hm : env.decode dynType msg.payload = some (.obj l)) :
    uuidFromRequestJson env msg dynType = .ok (some u) := by
  have hid : goalIdOf msg (msg.wrap (.obj l)) = .ok u := by
    rw [goalIdOf_wrap]
    simp only [Json.index, hl, Option.getD_some, Except.bind, goalId_eq]
    exact jsonToUuid_uuidJson u
  unfold uuidFromRequestJson
  rw [prepareJsonData_of_decode hm]
  simp [hid, Except.map, catchJson]

/-! ### Cancel requests -/

/-- The writer calls the user's cancel callback once, with the goal, the time stamp and the
identifier of the request, and returns. -/
def NotifiesCancel (env : Env) (msg : Message) (dynType : DynType) (requestId : Nat)
    (actionName : Str) (u : UUID) (t : Int) (s : State) : Prop :=
  ∃ s', (writeActionRequestNotification env msg dynType requestId actionName .cancel).run s =
      .ok () s' ∧
    s'.trace = s.trace ++
      [.actionCancelRequestNotification actionName u t requestId msg.publishTime]

lemma index_cancelRequest (u : UUID) (t : Int) :
    (createCancelRequestMsg u t).index "goal_id".toList = .ok .null := by
  simp [createCancelRequestMsg, Json.index, List.lookup]

lemma uuidFromRequestJson_cancel {u : UUID} {t : Int}
    (hm : env.decode dynType msg.payload = some (createCancelRequestMsg u t)) :
    uuidFromRequestJson env msg dynType = .error .invalidArgument := by
  have hid : goalIdOf msg (msg.wrap (createCancelRequestMsg u t)) = .error .invalidArgument := by
    rw [goalIdOf_wrap, index_cancelRequest]
    rfl
  unfold uuidFromRequestJson
  rw [prepareJsonData_of_decode hm]
  simp [hid, Except.map, catchJson, Exc.isJson]

/-- The seconds are looked for in `goal_info`, and are one level down, in its `stamp`. -/
lemma cancelRequestOf_cancel (u : UUID) (t : Int) :
    cancelRequestOf msg (msg.wrap (createCancelRequestMsg u t)) = .error .jsonTypeError := by
  unfold cancelRequestOf
  rw [Message.dataOf_wrap]
  simp [createCancelRequestMsg, goalId_eq, stamp, Json.index, List.lookup, Json.getInt64,
    Json.getArithmetic, Json.toInt?, bind, Except.bind]

lemma writeCancelRequest_cancel (env : Env) (requestId : Nat) (actionName : Str) (u : UUID)
    (t : Int) (s : State) :
    (writeCancelRequest env msg requestId actionName
      (msg.wrap (createCancelRequestMsg u t))).run s = .ok () s := by
  unfold writeCancelRequest
  rw [cancelRequestOf_cancel]
  cases env.callbacks.actionCancelRequestNotification <;> rfl

lemma writeActionRequestNotification_cancel {u : UUID} {t : Int} (requestId : Nat)
    (actionName : Str) (s : State)
    (hm : env.decode dynType msg.payload = some (createCancelRequestMsg u t)) :
    (writeActionRequestNotification env msg dynType requestId actionName .cancel).run s =
      .ok () s := by
  unfold writeActionRequestNotification
  rw [prepareJsonData_of_decode hm]
  exact writeCancelRequest_cancel env requestId actionName u t s

lemma not_notifiesCancel {u : UUID} {t : Int} (requestId : Nat) (actionName : Str) (s : State)
    (hm : env.decode dynType msg.payload = some (createCancelRequestMsg u t)) :
    ¬ NotifiesCancel env msg dynType requestId actionName u t s := by
  rintro ⟨s', hrun, htrace⟩
  rw [writeActionRequestNotification_cancel requestId actionName s hm] at hrun
  cases hrun
  simpa using congrArg List.length htrace

/-- **Cancel requests do not survive.** Of no cancel request that the enabler builds does the
writer find the goal, and for none does it call the cancel callback. -/
theorem cancel_request_lost {u : UUID} {t : Int} (requestId : Nat) (actionName : Str)
    (s : State) (hm : env.decode dynType msg.payload = some (createCancelRequestMsg u t)) :
    uuidFromRequestJson env msg dynType ≠ .ok (some u) ∧
      ¬ NotifiesCancel env msg dynType requestId actionName u t s := by
  refine ⟨?_, not_notifiesCancel requestId actionName s hm⟩
  rw [uuidFromRequestJson_cancel hm]
  simp

/-- A cancel request for the null goal, on its topic, with the callback set. -/
def cancelEnv : Env :=
  { Env.silent with
    callbacks := { Callbacks.unset with actionCancelRequestNotification := true }
    decode := fun _ _ => some (createCancelRequestMsg .null 0) }

def cancelMessage : Message :=
  { topic := { topicName := "rq/fibonacci/_action/cancel_goalRequest".toList }
    instanceHandle := "0".toList, sourceGuidPrefix := "1".toList, payload := [0]
    publishTime := 0 }

theorem cancel_request_lost_null :
    uuidFromRequestJson cancelEnv cancelMessage ⟨[], 0⟩ ≠ .ok (some .null) ∧
      ¬ NotifiesCancel cancelEnv cancelMessage ⟨[], 0⟩ 1 "fibonacci/_action/".toList .null 0 {} :=
  cancel_request_lost 1 _ _ rfl

theorem cancel_request_not_read :
    ¬ (uuidFromRequestJson cancelEnv cancelMessage ⟨[], 0⟩ = .ok (some .null) ∧
      NotifiesCancel cancelEnv cancelMessage ⟨[], 0⟩ 1 "fibonacci/_action/".toList .null 0
        {}) := by
  rintro ⟨hu, -⟩
  have hm : cancelEnv.decode ⟨[], 0⟩ cancelMessage.payload =
      some (createCancelRequestMsg .null 0) := rfl
  rw [uuidFromRequestJson_cancel hm] at hu
  cases hu

end DdsEnabler
