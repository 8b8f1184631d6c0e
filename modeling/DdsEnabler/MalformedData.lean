import DdsEnabler.GoalRequests
import DdsEnabler.RoundTrip

/-!
Action data of any shape.

Each reader of a goal identifier catches the exceptions of the JSON library. What is no identifier
by its shape is no matter of the library: `json_to_uuid` refuses it with an exception of its own,
and a member that is missing from a constant value is an assertion that fails. Both leave the
handler.
-/

namespace DdsEnabler

open Exec

/-! ### Shapes -/

namespace Json

/-- An object with an array of sixteen elements as its `uuid`. -/
def HasUuid (j : Json) : Prop :=
  ∃ l a, j = .obj l ∧ l.lookup "uuid".toList = some (.arr a) ∧ a.length = 16

/-- The goal of a message has the shape of an identifier, where the data can have members. -/
def GoalLegible (data : Json) : Prop :=
  ∀ v, data.index "goal_id".toList = .ok v → v.HasUuid

/-- As `GoalLegible`, of an element of a list: its member must be there. -/
def ElementLegible (goal : Json) : Prop :=
  ∀ l, goal = .obj l → ∃ v, l.lookup "goal_id".toList = some v ∧ v.HasUuid

/-- As `ElementLegible`, for the goal in the `goal_info` of a status. -/
def StatusLegible (status : Json) : Prop :=
  ∀ l, status = .obj l → ∃ v, l.lookup "goal_info".toList = some v ∧ v.ElementLegible

/-- The code of a status is there. -/
def HasStatus (status : Json) : Prop :=
  ∀ l, status = .obj l → ∃ v, l.lookup "status".toList = some v

end Json

/-- The identifier in an element of `goals_canceling`. -/
def cancelledUuid (goal : Json) : Except Exc UUID :=
  (goal.indexConst "goal_id".toList).bind jsonToUuid

/-- All goals are legible up to the first that the library cannot read. -/
def LegibleGoals : List Json → Prop
  | [] => True
  | goal :: goals => goal.ElementLegible ∧ ∀ u, cancelledUuid goal = .ok u → LegibleGoals goals

/-- All entries of a status list are legible up to the first that the library cannot read, and
those of active goals have a code. A final code may erase its goal on the way. -/
def LegibleStatuses (actionName : Str) (h : Handler) : List Json → Prop
  | [] => True
  | status :: list => status.StatusLegible ∧ ∀ u, statusUuid status = .ok u →
      if h.isUUIDActive actionName u then
        status.HasStatus ∧ ∀ code, statusCodeOf status = .ok code →
          LegibleStatuses actionName
            (if code.isFinal then h.eraseActionUUID u .finalStatus else h) list
      else LegibleStatuses actionName h list

/-- The topics of an action whose data has the identifiers of goals. -/
def RpcInfo.ReadsGoals (info : RpcInfo) : Prop :=
  info.rpcType = .action ∧
    match info.serviceType, info.actionType with
    | .reply, .cancel => True
    | .request, .goal => True
    | .request, .cancel => True
    | .request, .result => True
    | .none, .feedback => True
    | .none, .status => True
    | _, _ => False

/-- What the data of a topic of an action has to look like. -/
def LegibleData (env : Env) (info : RpcInfo) (h : Handler) (data : Json) : Prop :=
  match info.serviceType, info.actionType with
  | .none, .feedback => env.callbacks.actionFeedbackNotification = true → data.GoalLegible
  | .none, _ => ∀ list, data.index "status_list".toList = .ok list →
      LegibleStatuses info.actionName h list.elements
  | .reply, _ => ∀ code, (data.index "return_code".toList).bind (·.getInt32) = .ok code →
      ∀ goals, data.index "goals_canceling".toList = .ok goals → LegibleGoals goals.elements
  | .request, _ => data.GoalLegible

/-! ### Readings -/

/-- A reading that the enabler goes on from: it ends in no exception but the library's. -/
def Caught {α : Type} (r : Except Exc α) : Prop := ∀ e, r = .error e → e.isJson = true

section Caught

variable {α β : Type}

lemma caught_ok (a : α) : Caught (.ok a) := by
  intro e h
  cases h

lemma caught_json : Caught (.error .jsonTypeError : Except Exc α) := by
  intro e h
  cases h
  rfl

lemma not_caught {e : Exc} (h : e.isJson = false) : ¬ Caught (.error e : Except Exc α) := by
  intro hc
  rw [hc e rfl] at h
  cases h

lemma caught_bind {r : Except Exc α} {f : α → Except Exc β} :
    Caught (r.bind f) ↔ Caught r ∧ ∀ a, r = .ok a → Caught (f a) := by
  rcases r with e | a
  · exact ⟨fun h => ⟨fun e' he => (by cases he; exact h e rfl), fun a ha => (by cases ha)⟩,
      fun h e' he => (by cases he; exact h.1 e rfl)⟩
  · exact ⟨fun h => ⟨caught_ok a, fun b hb => (by cases hb; exact h)⟩, fun h => h.2 a rfl⟩

lemma exists_of_bind {r : Except Exc α} {f : α → Except Exc β} {b : β}
    (h : r.bind f = .ok b) : ∃ a, r = .ok a ∧ f a = .ok b := by
  rcases r with e | a
  · cases h
  · exact ⟨a, rfl, h⟩

lemma caught_index (j : Json) (k : Str) : Caught (j.index k) := by
  unfold Json.index
  split
  · exact caught_ok _
  · exact caught_ok _
  · exact caught_json

lemma caught_indexConst_bind {j : Json} {k : Str} {f : Json → Except Exc β} :
    Caught ((j.indexConst k).bind f) ↔
      ∀ l, j = .obj l → ∃ v, l.lookup k = some v ∧ Caught (f v) := by
  rcases j with _ | _ | _ | _ | _ | _ | l
  case obj =>
    simp only [Json.indexConst, Json.obj.injEq, forall_eq']
    rcases l.lookup k with _ | v
    · simp only [Except.bind, reduceCtorEq, false_and, exists_false, iff_false]
      exact not_caught rfl
    · simp [Except.bind]
  all_goals simpa [Json.indexConst, Except.bind] using caught_json

lemma caught_getUnsigned (j : Json) (w : Nat) : Caught (j.getUnsigned w) := by
  unfold Json.getUnsigned
  split
  · exact caught_ok _
  · split
    · exact caught_ok _
    · exact caught_json

lemma caught_getArithmetic (j : Json) (w : Nat) : Caught (j.getArithmetic w) := by
  unfold Json.getArithmetic
  split
  · exact caught_ok _
  · exact caught_json

lemma caught_getInt32 (j : Json) : Caught j.getInt32 := by
  unfold Json.getInt32
  split
  · exact caught_ok _
  · exact caught_getArithmetic _ _

lemma caught_readBytes (l : List Json) : Caught (readBytes l) := by
  induction l with
  | nil => exact caught_ok _
  | cons j l ih =>
    have hj := caught_getUnsigned j 8
    unfold readBytes
    rcases hn : j.getUnsigned 8 with e | n
    · intro e' he
      cases he
      exact hj e hn
    · rcases hb : readBytes l with e | b
      · intro e' he
        cases he
        exact ih e hb
      · exact caught_ok _

/-- The shape of an identifier is what the reader looks at by itself. -/
lemma caught_jsonToUuid {j : Json} : Caught (jsonToUuid j) ↔ j.HasUuid := by
  unfold jsonToUuid Json.HasUuid
  split
  · rename_i l
    split
    · rename_i a ha
      split
      · rename_i hlen
        refine iff_of_true ?_ ⟨l, a, rfl, ha, hlen⟩
        rcases hb : readBytes a with e | b
        · intro e' he
          cases he
          exact caught_readBytes a e hb
        · exact caught_ok _
      · rename_i hlen
        refine iff_of_false (not_caught rfl) ?_
        rintro ⟨l', a', hl, ha', hlen'⟩
        cases hl
        rw [ha] at ha'
        cases ha'
        exact hlen hlen'
    · rename_i hno
      refine iff_of_false (not_caught rfl) ?_
      rintro ⟨l', a', hl, ha', -⟩
      cases hl
      exact hno a' ha'
  · rename_i hno
    refine iff_of_false (not_caught rfl) ?_
    rintro ⟨l', -, hl, -⟩
    exact hno l' hl

lemma caught_goal {data : Json} :
    Caught ((data.index "goal_id".toList).bind jsonToUuid) ↔ data.GoalLegible := by
  rw [caught_bind, and_iff_right (caught_index _ _)]
  exact forall₂_congr fun v _ => caught_jsonToUuid

lemma caught_cancelledUuid {goal : Json} : Caught (cancelledUuid goal) ↔ goal.ElementLegible := by
  unfold cancelledUuid Json.ElementLegible
  simp only [caught_indexConst_bind, caught_jsonToUuid]

lemma caught_statusUuid {status : Json} : Caught (statusUuid status) ↔ status.StatusLegible := by
  change Caught ((status.indexConst _).bind cancelledUuid) ↔ _
  unfold Json.StatusLegible
  simp only [caught_indexConst_bind, caught_cancelledUuid]

lemma caught_statusCodeOf {status : Json} : Caught (statusCodeOf status) ↔ status.HasStatus := by
  change Caught ((status.indexConst _).bind
    fun v => (v.getArithmetic 32).bind fun n => .ok (StatusCode.ofInt n)) ↔ _
  rw [caught_indexConst_bind]
  simp only [Json.HasStatus, caught_bind, caught_getArithmetic, caught_ok, implies_true,
    and_self, and_true]

end Caught

/-! ### Writers -/

/-- The goal that an event is about. -/
def Event.goal : Event → Option UUID
  | .actionGoalRequestNotification _ _ u _ | .actionCancelRequestNotification _ u _ _ _
  | .actionResultNotification _ _ u _ | .actionFeedbackNotification _ _ u _
  | .actionStatusNotification _ u _ _ _ | .sendActionGetResultRequest _ u _
  | .sendActionGetResultReply _ u _ _ _ | .storedRequest _ u _ _ _ _ | .resultSet u _
  | .erasedAction u _ => some u
  | _ => none

/-- An event is about no other goals. -/
def AboutOnly (P : UUID → Prop) (e : Event) : Prop := ∀ u, e.goal = some u → P u

/-- A condition tells whether a computation returns, having been about some goals only, or ends
with an exception. -/
structure Settles (P : UUID → Prop) (x : M Unit) (s : State) (c : Prop) : Prop where
  returns : c → ∃ t, x.run s = .ok () t ∧ Tells (AboutOnly P) s t
  throws : ¬ c → ∃ e t, x.run s = .error e t

section Settles

variable {P : UUID → Prop} {x : M Unit} {s : State} {c : Prop} {α : Type}

lemma tells_log {es : List Event} (h : ∀ e ∈ es, AboutOnly P e) :
    Tells (AboutOnly P) s (s.log es) := ⟨es, rfl, h⟩

lemma Settles.congr {c' : Prop} (h : Settles P x s c) (hc : c ↔ c') : Settles P x s c' :=
  ⟨fun hc' => h.returns (hc.mpr hc'), fun hc' => h.throws fun hn => hc' (hc.mp hn)⟩

lemma settles_ok {t : State} (h : x.run s = .ok () t) (ht : Tells (AboutOnly P) s t) :
    Settles P x s True :=
  ⟨fun _ => ⟨t, h, ht⟩, fun hc => absurd trivial hc⟩

lemma settles_pure : Settles P (pure ()) s True := settles_ok rfl (refl_of _ s)

lemma Settles.after {y : M α} {f : α → M Unit} {a : α} {t : State} (hy : y.run s = .ok a t)
    (ht : Tells (AboutOnly P) s t) (h : Settles P (f a) t c) : Settles P (y >>= f) s c where
  returns hc := by
    obtain ⟨r, hrun, hr⟩ := h.returns hc
    exact ⟨r, (run_bind_ok hy).trans hrun, trans_of _ ht hr⟩
  throws hc := by
    obtain ⟨e, r, hrun⟩ := h.throws hc
    exact ⟨e, r, (run_bind_ok hy).trans hrun⟩

lemma settles_read {r : Except Exc α} {f : Option α → M Unit} {c : α → Prop}
    (hnone : f none = pure ()) (h : ∀ a, r = .ok a → Settles P (f (some a)) s (c a)) :
    Settles P (lift (catchJson (r.map some) none) >>= f) s
      (Caught r ∧ ∀ a, r = .ok a → c a) := by
  rcases r with e | a
  · by_cases he : e.isJson = true
    · refine (settles_ok (t := s) ?_ (refl_of _ s)).congr
        (iff_of_true trivial ⟨fun e' h' => (by cases h'; exact he), fun a ha => (by cases ha)⟩)
      simp [Except.map, catchJson, he, hnone]
    · refine ⟨fun hc => absurd (hc.1 e rfl) he, fun _ => ⟨e, s, ?_⟩⟩
      simp only [Except.map, catchJson, he, Bool.false_eq_true, if_false]
      rfl
  · refine ((h a rfl).after (y := lift (.ok (some a))) rfl (refl_of _ s)).congr ?_
    simp [caught_ok]

end Settles

section Writers

variable {P : UUID → Prop} (env : Env) (msg : Message) (actionName : Str)

lemma aboutOnly_statusTold {u : UUID} (hu : P u) (status : StatusCode × String) :
    ∀ e ∈ statusTold env msg actionName u status, AboutOnly P e := by
  unfold statusTold
  split
  · simpa [AboutOnly, Event.goal] using hu
  · simp

lemma settles_writeCancelledGoals (status : StatusCode × String) {goals : List Json}
    (hP : ∀ goal ∈ goals, ∀ u, cancelledUuid goal = .ok u → P u) (s : State) :
    Settles P (writeCancelledGoals env msg actionName status goals) s (LegibleGoals goals) := by
  induction goals generalizing s with
  | nil => exact settles_pure
  | cons goal goals ih =>
    have hrest := ih fun g hg => hP g (List.mem_cons_of_mem goal hg)
    unfold writeCancelledGoals LegibleGoals
    rw [← caught_cancelledUuid]
    refine settles_read (r := cancelledUuid goal) rfl fun u hu => ?_
    refine .after (readHandler_run s _) (refl_of _ s) ?_
    rcases s.handler.isUUIDActive actionName u
    · exact .after rfl (refl_of _ s) (hrest s)
    · refine .after (notifyStatus_run env msg actionName u status s) (tells_log ?_) (hrest _)
      exact aboutOnly_statusTold env msg actionName (hP goal List.mem_cons_self u hu) status

/-- The loop over a status list: what follows a final code meets a handler without the goal. -/
lemma settles_writeStatusList {list : List Json}
    (hP : ∀ status ∈ list, ∀ u, statusUuid status = .ok u → P u) (s : State) :
    Settles P (writeStatusList env msg actionName list) s
      (LegibleStatuses actionName s.handler list) := by
  induction list generalizing s with
  | nil => exact settles_pure
  | cons status list ih =>
    have hrest := ih fun j hj => hP j (List.mem_cons_of_mem status hj)
    unfold writeStatusList LegibleStatuses
    rw [← caught_statusUuid]
    refine settles_read (r := statusUuid status) rfl fun u hu => ?_
    have hPu := hP status List.mem_cons_self u hu
    refine .after (readHandler_run s _) (refl_of _ s) ?_
    rcases s.handler.isUUIDActive actionName u
    · exact hrest s
    · simp only [if_true]
      rw [← caught_statusCodeOf]
      refine settles_read (r := statusCodeOf status) rfl fun code hcode => ?_
      have htell := fun t : State => notifyStatus_run env msg actionName u
        (code, statusMessage code) t
      have habout := aboutOnly_statusTold env msg actionName hPu (code, statusMessage code)
      rcases hfin : code.isFinal
      · simp only [hfin, Bool.false_eq_true, if_false]
        refine .after (htell s) (tells_log habout) ?_
        exact hrest _
      · simp only [hfin, if_true]
        refine .after (eraseActionUUID_run s u .finalStatus) ?_ ?_
        · exact ⟨[.erasedAction u .finalStatus], rfl, by simpa [AboutOnly, Event.goal] using hPu⟩
        · refine .after (htell _) (tells_log habout) ?_
          exact hrest _

variable {env msg} {dynType : DynType} {data : Json}

lemma settles_writeFeedback (hd : env.decode dynType msg.payload = some data)
    (hP : ∀ u, (data.index "goal_id".toList).bind jsonToUuid = .ok u → P u) (s : State) :
    Settles P (writeActionFeedbackNotification env msg dynType actionName) s
      (env.callbacks.actionFeedbackNotification = true → data.GoalLegible) := by
  unfold writeActionFeedbackNotification
  rw [prepareJsonData_of_decode hd]
  rcases env.callbacks.actionFeedbackNotification
  · exact settles_pure.congr (by simp)
  · have hgoal := goalIdOf_wrap msg data
    have hfeedback : feedbackOf msg (msg.wrap data) =
        ((data.index "goal_id".toList).bind jsonToUuid).bind fun u =>
          (data.index "feedback".toList).bind fun feedback => .ok (u, feedback) := by
      unfold feedbackOf
      rw [hgoal, Message.dataOf_wrap]
      rfl
    have hcaught : Caught (feedbackOf msg (msg.wrap data)) ↔ data.GoalLegible := by
      rw [hfeedback, caught_bind, caught_goal]
      simp [caught_bind, caught_index, caught_ok]
    refine Settles.congr (settles_read rfl (c := fun _ => True) ?_) (by simp [hcaught])
    rintro ⟨u, feedback⟩ hu
    refine settles_ok (emit_run s _) (tells_log ?_)
    rw [hfeedback] at hu
    obtain ⟨v, hg, hu⟩ := exists_of_bind hu
    obtain ⟨w, -, hu⟩ := exists_of_bind hu
    cases hu
    simpa [AboutOnly, Event.goal] using hP u hg

lemma settles_writeCancelReply (hd : env.decode dynType msg.payload = some data)
    (hP : ∀ goals, data.index "goals_canceling".toList = .ok goals →
      ∀ goal ∈ goals.elements, ∀ u, cancelledUuid goal = .ok u → P u) (s : State) :
    Settles P (writeActionCancelReplyNotification env msg dynType actionName) s
      (∀ code, (data.index "return_code".toList).bind (·.getInt32) = .ok code →
        ∀ goals, data.index "goals_canceling".toList = .ok goals →
          LegibleGoals goals.elements) := by
  have hcode : returnCodeOf msg (msg.wrap data) =
      (data.index "return_code".toList).bind (·.getInt32) := by
    unfold returnCodeOf
    rw [Message.dataOf_wrap]
    rfl
  have hgoals : (msg.dataOf (msg.wrap data)).bind (·.index "goals_canceling".toList) =
      data.index "goals_canceling".toList := by
    rw [Message.dataOf_wrap]
    rfl
  unfold writeActionCancelReplyNotification
  rw [prepareJsonData_of_decode hd]
  simp only [hcode, hgoals]
  have hloop := fun status goals hg =>
    settles_writeCancelledGoals env msg actionName status (hP goals hg) s
  refine Settles.congr (settles_read rfl fun code _ => settles_read rfl fun goals hg =>
    hloop (cancelReplyStatus code) goals hg) ?_
  simp [caught_bind, caught_index, caught_getInt32]

lemma settles_writeStatus (hd : env.decode dynType msg.payload = some data)
    (hP : ∀ list, data.index "status_list".toList = .ok list →
      ∀ status ∈ list.elements, ∀ u, statusUuid status = .ok u → P u) (s : State) :
    Settles P (writeActionStatusNotification env msg dynType actionName) s
      (∀ list, data.index "status_list".toList = .ok list →
        LegibleStatuses actionName s.handler list.elements) := by
  have hlist : (msg.dataOf (msg.wrap data)).bind (·.index "status_list".toList) =
      data.index "status_list".toList := by
    rw [Message.dataOf_wrap]
    rfl
  unfold writeActionStatusNotification
  rw [prepareJsonData_of_decode hd]
  simp only [hlist]
  have hloop := fun list hl => settles_writeStatusList env msg actionName (hP list hl) s
  refine Settles.congr (settles_read rfl fun list hl => hloop list hl) ?_
  simp [caught_index]

end Writers

/-! ### Requests -/

section Requests

variable {P : UUID → Prop} (env : Env) {msg : Message} (actionName : Str) {dynType : DynType}
  {d : Json} {data : Sample} {info : RpcInfo} {u : UUID} {s : State}

lemma aboutOnly_none {e : Event} (h : e.goal = none) : AboutOnly P e := by
  intro u hu
  rw [h] at hu
  cases hu

lemma storeActionRequest_tells (hu : P u) (id : Nat) (ty : ActionType) (p : Protocol)
    (s : State) : ∃ b t, (storeActionRequest env actionName u id ty p).run s = .ok b t ∧
      Tells (AboutOnly P) s t := by
  rcases h : (s.handler.storeActionRequest actionName u id ty p env.now).1
  · exact ⟨false, s, storeActionRequest_run_false s env h, refl_of _ s⟩
  · exact ⟨true, _, storeActionRequest_run_true s env h,
      ⟨[_], rfl, by simpa [AboutOnly, Event.goal] using hu⟩⟩

lemma aboutOnly_replyEvents (serviceName : Str) (json : JsonText) (id : Nat) :
    ∀ e ∈ s.replyEvents env serviceName json id, AboutOnly P e := by
  unfold State.replyEvents
  split
  · simp
  · split
    · simp [AboutOnly, Event.goal]
    · simp

lemma settles_sendGoalReply (id : Nat) (accepted : Bool) :
    Settles P (sendGoalReplyCallback env actionName id accepted) s True := by
  refine settles_ok (sendGoalReplyCallback_run env actionName id accepted s) (tells_log ?_)
  intro e he
  rcases List.mem_append.mp he with he | he
  · exact aboutOnly_replyEvents env _ _ _ e he
  · rw [List.mem_singleton.mp he]
    exact aboutOnly_none rfl

variable (msg) in
lemma settles_writeGoalRequest (hu : P u) {json : Json} (hgoal : goalIdOf msg json = .ok u)
    (id : Nat) : Settles P (writeGoalRequest env msg id actionName json) s True := by
  unfold writeGoalRequest
  rcases env.callbacks.actionGoalRequestNotification with _ | callback
  · exact settles_sendGoalReply env actionName id _
  · simp only [catchJson_ok hgoal, lift_ok, pure_bind]
    refine .after (emit_run s _) (tells_log ?_) (settles_sendGoalReply env actionName id _)
    simpa [AboutOnly, Event.goal] using hu

lemma cancelRequestOf_eq (hgoal : goalIdOf msg (msg.wrap d) = .ok u) :
    cancelRequestOf msg (msg.wrap d) = (d.index "goal_info".toList).bind fun i =>
      (i.index "sec".toList).bind fun sec => (i.index "nanosec".toList).bind fun nanosec =>
        sec.getInt64.bind fun n => (nanosec.getUnsigned 32).bind fun m =>
          .ok (u, (n * 1000000000 + m).bmod (2 ^ 64)) := by
  unfold cancelRequestOf
  rw [Message.dataOf_wrap, hgoal]
  rfl

lemma settles_writeCancelRequest (hu : P u) (hgoal : goalIdOf msg (msg.wrap d) = .ok u)
    (id : Nat) : Settles P (writeCancelRequest env msg id actionName (msg.wrap d)) s True := by
  have hread := cancelRequestOf_eq hgoal
  have hcaught : Caught (cancelRequestOf msg (msg.wrap d)) := by
    rw [hread]
    simp [caught_bind, caught_index, caught_getUnsigned, caught_getArithmetic, caught_ok,
      Json.getInt64]
  have hgoal' : ∀ r, cancelRequestOf msg (msg.wrap d) = .ok r → r.1 = u := by
    intro r hr
    rw [hread] at hr
    obtain ⟨i, -, hr⟩ := exists_of_bind hr
    obtain ⟨sec, -, hr⟩ := exists_of_bind hr
    obtain ⟨nanosec, -, hr⟩ := exists_of_bind hr
    obtain ⟨n, -, hr⟩ := exists_of_bind hr
    obtain ⟨m, -, hr⟩ := exists_of_bind hr
    cases hr
    rfl
  unfold writeCancelRequest
  split
  · have htell : ∀ r, cancelRequestOf msg (msg.wrap d) = .ok r →
        Settles P (emit (.actionCancelRequestNotification actionName r.1 r.2 id
          msg.publishTime)) s True := by
      intro r hr
      refine settles_ok (emit_run s _) (tells_log ?_)
      simpa [AboutOnly, Event.goal, hgoal' r hr] using hu
    refine Settles.congr (settles_read rfl fun r hr => htell r hr) (by simp [hcaught])
  · exact settles_pure

lemma settles_writeActionRequest (hd : env.decode dynType msg.payload = some d) (hu : P u)
    (hgoal : (d.index "goal_id".toList).bind jsonToUuid = .ok u) (id : Nat) (ty : ActionType) :
    Settles P (writeActionRequestNotification env msg dynType id actionName ty) s True := by
  have hgoal' := (goalIdOf_wrap msg d).trans hgoal
  unfold writeActionRequestNotification
  rw [prepareJsonData_of_decode hd]
  cases ty
  case goal => exact settles_writeGoalRequest env msg actionName hu hgoal' id
  case cancel => exact settles_writeCancelRequest env actionName hu hgoal' id
  all_goals exact settles_pure

lemma getResultReplyCallback_tells (hu : P u) (result : JsonText) (id : Nat) (s : State) :
    ∃ b t, (getResultReplyCallback env actionName u result id).run s = .ok b t ∧
      Tells (AboutOnly P) s t := by
  have hes := aboutOnly_replyEvents (P := P) (s := s) env (actionName ++ actionResultSuffix)
    result id
  rcases hb : s.replyPublishable env (actionName ++ actionResultSuffix) result
  · refine ⟨false, _, getResultReplyCallback_refused hb u id, tells_log fun e he => ?_⟩
    rcases List.mem_append.mp he with he | he
    · exact hes e he
    · rw [List.mem_singleton.mp he]
      simpa [AboutOnly, Event.goal] using hu
  · refine ⟨true, _, getResultReplyCallback_sent hb u id, ⟨_, rfl, fun e he => ?_⟩⟩
    rcases List.mem_append.mp he with he | he
    · exact hes e he
    · revert he
      simp only [List.mem_cons, List.not_mem_nil, or_false]
      rintro (rfl | rfl)
      · simpa [AboutOnly, Event.goal] using hu
      · simpa [AboutOnly, Event.goal] using hu

lemma settles_replyStoredResult (hu : P u) (id : Nat) :
    Settles P (replyStoredResult env actionName u id) s True := by
  unfold replyStoredResult
  refine .after (readHandler_run s _) (refl_of _ s) ?_
  rcases s.handler.getActionResult u with _ | result
  · exact settles_pure
  · obtain ⟨b, t, hrun, ht⟩ := getResultReplyCallback_tells env actionName hu result id s
    refine settles_ok (t := t) ?_ ht
    simp only [run_discard, hrun]

lemma stampRequest_tells (h : data.isRpc = true) (s : State) :
    ∃ t, (stampRequest data).run s = .ok s.handler.nextRequestId.1 t ∧
      Tells (AboutOnly P) s t := by
  rw [stampRequest_run, if_pos h]
  exact ⟨_, rfl, ⟨stampEvents s.handler.nextRequestId.1, by simp [stampEvents], by
    simp [stampEvents, AboutOnly, Event.goal]⟩⟩

section Sample

variable {env} (hd : env.decode dynType msg.payload = some d)
  (hP : ∀ u, (d.index "goal_id".toList).bind jsonToUuid = .ok u → P u) (h : data.isRpc = true)

include hd hP h

lemma settles_addActionRequest :
    Settles P (addActionRequest env info data msg dynType) s d.GoalLegible := by
  obtain ⟨t, hstamp, ht⟩ := stampRequest_tells (P := P) h s
  unfold addActionRequest
  refine .after hstamp ht ?_
  simp only [uuidFromRequestJson, prepareJsonData_of_decode hd, goalIdOf_wrap]
  have hgo : ∀ u, (d.index "goal_id".toList).bind jsonToUuid = .ok u → ∀ id ty,
      Settles P (do
        if ← storeActionRequest env info.actionName u id ty .ros2 then
          writeActionRequestNotification env msg dynType id info.actionName ty) t True := by
    intro u hu id ty
    obtain ⟨b, t', hstore, ht'⟩ := storeActionRequest_tells env info.actionName (hP u hu) id ty
      .ros2 t
    refine .after hstore ht' ?_
    rcases b
    · exact settles_pure
    · exact settles_writeActionRequest env info.actionName hd (hP u hu) hu id ty
  refine Settles.congr (settles_read rfl fun u hu => hgo u hu _ _) ?_
  rw [caught_goal]
  simp

lemma settles_addResultRequest :
    Settles P (addResultRequest env info data msg dynType) s d.GoalLegible := by
  unfold addResultRequest
  simp only [uuidFromRequestJson, prepareJsonData_of_decode hd, goalIdOf_wrap]
  have hgo : ∀ u, (d.index "goal_id".toList).bind jsonToUuid = .ok u →
      Settles P (do
        let requestId ← stampRequest data
        if ← storeActionRequest env info.actionName u requestId .result .ros2 then
          replyStoredResult env info.actionName u requestId) s True := by
    intro u hu
    obtain ⟨t, hstamp, ht⟩ := stampRequest_tells (P := P) h s
    obtain ⟨b, t', hstore, ht'⟩ := storeActionRequest_tells env info.actionName (hP u hu)
      s.handler.nextRequestId.1 .result .ros2 t
    refine .after hstamp ht (.after hstore ht' ?_)
    rcases b
    · exact settles_pure
    · exact settles_replyStoredResult env info.actionName (hP u hu) _
  refine Settles.congr (settles_read rfl fun u hu => hgo u hu) ?_
  rw [caught_goal]
  simp

end Sample

end Requests

/-! ### Samples -/

/-- The goals that can be read from the data of a topic of an action. -/
def RpcInfo.Carries (info : RpcInfo) (data : Json) (u : UUID) : Prop :=
  match info.serviceType, info.actionType with
  | .reply, _ => ∃ goals, data.index "goals_canceling".toList = .ok goals ∧
      ∃ goal ∈ goals.elements, cancelledUuid goal = .ok u
  | .none, .status => ∃ list, data.index "status_list".toList = .ok list ∧
      ∃ status ∈ list.elements, statusUuid status = .ok u
  | _, _ => (data.index "goal_id".toList).bind jsonToUuid = .ok u

/-- A sample is added without an exception, and what is told and recorded on the way is about the
goals that can be read from its data. -/
def ReadsSafely (env : Env) (topic : DdsTopic) (data : Sample) (d : Json) (s : State) : Prop :=
  ∃ t, (addData env topic data).run s = .ok () t ∧
    (∀ e ∈ newEvents s t, ∀ u, e.goal = some u →
      (RpcInfo.ofTopic topic.topicName).Carries d u) ∧
    ∀ u, s.handler.entry u = none → t.handler.entry u ≠ none →
      (RpcInfo.ofTopic topic.topicName).Carries d u

section Samples

variable {env : Env} {topic : DdsTopic} {data : Sample} {dynType : DynType} {d : Json} {s : State}

lemma settles_addKnownData {info : RpcInfo} {msg : Message}
    (hd : env.decode dynType msg.payload = some d) (hkind : info.ReadsGoals)
    (hrpc : info.serviceType ≠ .none → data.isRpc = true) :
    Settles (info.Carries d) (addKnownData env info data msg dynType) s
      (LegibleData env info s.handler d) := by
  obtain ⟨hrpcType, hkind⟩ := hkind
  unfold addKnownData addActionData LegibleData RpcInfo.Carries
  rw [hrpcType]
  rcases hst : info.serviceType <;> rcases hty : info.actionType <;>
    simp only [hst, hty] at hkind ⊢
  case none.feedback => exact settles_writeFeedback info.actionName hd (fun u hu => hu) s
  case none.status =>
    exact settles_writeStatus info.actionName hd
      (fun list hl status hs u hu => ⟨list, hl, status, hs, hu⟩) s
  case reply.cancel =>
    have hisRpc := hrpc (by simp [hst])
    unfold addCancelReply
    refine .after (a := ()) (t := s) ?_ (refl_of _ s) ?_
    · simp [relatedRequestId, requireRpc, hisRpc, run_discard]
    · exact settles_writeCancelReply info.actionName hd
        (fun goals hg goal hm u hu => ⟨goals, hg, goal, hm, hu⟩) s
  all_goals have hisRpc := hrpc (by simp [hst])
  case request.result => exact settles_addResultRequest hd (fun u hu => hu) hisRpc
  all_goals exact settles_addActionRequest hd (fun u hu => hu) hisRpc

lemma exists_goal_of_replay {u : UUID} {es : List Event} {o : Option ActionRequestInfo}
    (ho : o = none) (h : replay u es o ≠ none) : ∃ e ∈ es, e.goal = some u := by
  induction es generalizing o with
  | nil => exact absurd ho h
  | cons e es ih =>
    by_cases he : e.onEntry u o = none
    · obtain ⟨e', he', hg⟩ := ih he (by simpa using h)
      exact ⟨e', List.mem_cons_of_mem e he', hg⟩
    · refine ⟨e, List.mem_cons_self, ?_⟩
      subst ho
      cases e
      case storedRequest name v id ty p now =>
        by_cases hv : u = v
        · simp [Event.goal, hv]
        · simp [Event.onEntry, hv] at he
      all_goals simp [Event.onEntry] at he

lemma entry_of_received {t : State} {es : List Event} (h : Received s t)
    (htrace : t.trace = s.trace ++ es) (u : UUID) :
    t.handler.entry u = replay u es (s.handler.entry u) := by
  have hnew : ∀ {o : Option Nat} {new : List Event}, Step o new s t →
      t.handler.entry u = replay u es (s.handler.entry u) := by
    intro o new hstep
    rw [hstep.entry u, List.append_cancel_left (htrace.symm.trans hstep.trace)]
  rcases h with ⟨new, hstep⟩ | ⟨id, new, hstep, -⟩
  · exact hnew hstep
  · exact hnew hstep

lemma legibleStatuses_congr (actionName : Str) {h h' : Handler}
    (hh : ∀ u, h.entry u = h'.entry u) (list : List Json) :
    LegibleStatuses actionName h list ↔ LegibleStatuses actionName h' list := by
  induction list generalizing h h' with
  | nil => exact Iff.rfl
  | cons status list ih =>
    unfold LegibleStatuses
    refine and_congr_right fun _ => forall₂_congr fun u _ => ?_
    rw [isUUIDActive_congr (hh u)]
    split
    · refine and_congr_right fun _ => forall₂_congr fun code _ => ih fun v => ?_
      split
      · rw [Handler.entry_eraseActionUUID, Handler.entry_eraseActionUUID, hh, hh]
      · exact hh v
    · exact ih hh

end Samples

/-- **Malformed action data never escapes** if and only if the data is legible: each goal in it has
the shape of an identifier, up to the first that the JSON library refuses. -/
theorem reads_safely_iff {env : Env} {topic : DdsTopic} {data : Sample} {dynType : DynType}
    {d : Json} {s : State} (h : data.Accepted topic dynType s)
    (hd : env.decode dynType data.payload = some d)
    (hkind : (RpcInfo.ofTopic topic.topicName).ReadsGoals)
    (hrpc : (RpcInfo.ofTopic topic.topicName).serviceType ≠ .none → data.isRpc = true) :
    ReadsSafely env topic data d s ↔
      LegibleData env (.ofTopic topic.topicName) s.handler d := by
  set info := RpcInfo.ofTopic topic.topicName with hinfo
  have hsettles : Settles (info.Carries d)
      (addKnownData env info data (data.message topic) dynType) s.count
      (LegibleData env info s.count.handler d) := settles_addKnownData hd hkind hrpc
  have hcount : LegibleData env info s.count.handler d ↔ LegibleData env info s.handler d := by
    unfold LegibleData
    split
    case h_2 =>
      exact forall₂_congr fun list _ =>
        legibleStatuses_congr info.actionName (count_entry s) list.elements
    all_goals exact Iff.rfl
  rw [← hcount]
  have hrun := addData_run h env
  rw [← hinfo] at hrun
  constructor
  · rintro ⟨t, ht, -⟩
    by_contra hc
    obtain ⟨e, t', herr⟩ := hsettles.throws hc
    rw [hrun, herr] at ht
    cases ht
  · intro hc
    obtain ⟨t, ht, es, htrace, hes⟩ := hsettles.returns hc
    rw [← hrun] at ht
    have hnew : newEvents s t = es := newEvents_eq htrace
    refine ⟨t, ht, fun e he u hu => hes e (hnew ▸ he) u hu, fun u hu hnone => ?_⟩
    have hreceived : Received s t := after_ok ht ▸ received_addData env data topic s
    rw [entry_of_received hreceived htrace u] at hnone
    obtain ⟨e, he, hgoal⟩ := exists_goal_of_replay hu hnone
    exact hes e he u hgoal

theorem reads_safely_iff_null :
    ReadsSafely nullGoalEnv goalRequestTopic requestSample (RpcUtils.createResultRequestMsg .null)
        knownState ↔
      LegibleData nullGoalEnv (.ofTopic goalRequestTopic.topicName) knownState.handler
        (RpcUtils.createResultRequestMsg .null) :=
  reads_safely_iff (nullGoal_request rfl).accepted rfl ⟨rfl, trivial⟩ fun _ => rfl

/-- Feedback without a goal, for a user who wants feedback. -/
def feedbackEnv : Env :=
  { Env.silent with
    callbacks := { Callbacks.unset with actionFeedbackNotification := true }
    decode := fun _ _ => some (.obj []) }

def feedbackTopic : DdsTopic :=
  { topicName := "rt/fibonacci/_action/feedback".toList }

/-- An identifier that is missing leaves the handler as an exception. -/
theorem feedback_escapes :
    (addData feedbackEnv feedbackTopic requestSample).run knownState =
        .error .invalidArgument knownState.count ∧
      ¬ ∀ env topic data dynType d s, data.Accepted topic dynType s →
        env.decode dynType data.payload = some d →
        (RpcInfo.ofTopic topic.topicName).ReadsGoals →
        ((RpcInfo.ofTopic topic.topicName).serviceType ≠ .none → data.isRpc = true) →
        ReadsSafely env topic data d s := by
  have hacc : requestSample.Accepted feedbackTopic ⟨[], 0⟩ knownState := ⟨⟨0, rfl⟩, rfl, rfl⟩
  have hrun : (addData feedbackEnv feedbackTopic requestSample).run knownState =
      .error .invalidArgument knownState.count := by
    have hread : feedbackOf (requestSample.message feedbackTopic)
        ((requestSample.message feedbackTopic).wrap (.obj [])) = .error .invalidArgument := by
      unfold feedbackOf
      rw [goalIdOf_wrap]
      rfl
    have hwrite : ∀ name, (writeActionFeedbackNotification feedbackEnv
        (requestSample.message feedbackTopic) ⟨[], 0⟩ name).run knownState.count =
          .error .invalidArgument knownState.count := by
      intro name
      unfold writeActionFeedbackNotification
      have hcb : feedbackEnv.callbacks.actionFeedbackNotification = true := rfl
      rw [prepareJsonData_of_decode rfl, hcb]
      simp only [hread]
      rfl
    rw [addData_run hacc]
    exact hwrite _
  refine ⟨hrun, fun h => ?_⟩
  obtain ⟨t, ht, -⟩ := h feedbackEnv feedbackTopic requestSample ⟨[], 0⟩ (.obj []) knownState hacc
    rfl ⟨rfl, trivial⟩ fun _ => rfl
  rw [hrun] at ht
  cases ht

end DdsEnabler
