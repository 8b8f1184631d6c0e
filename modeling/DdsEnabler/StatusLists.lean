import DdsEnabler.GoalLifetime
import DdsEnabler.RoundTrip
import DdsEnabler.Lib.Visits

/-!
A status message with any number of entries.

Each entry finds the goals as the entries before it have left them: a final code removes a goal
whose result has been received, and the entries for it that follow are skipped.
-/

namespace DdsEnabler

open Exec Runs

/-- An entry of a status list: a goal and its code. -/
structure GoalStatus where
  goalId : UUID
  statusCode : StatusCode

/-- A status message with these entries, all of them readable. -/
def IsStatusMessage (env : Env) (msg : Message) (dynType : DynType) (entries : List GoalStatus) :
    Prop :=
  ∃ d list, env.decode dynType msg.payload = some d ∧ d.index "status_list".toList = .ok list ∧
    List.Forall₂ (fun j e => statusUuid j = .ok e.goalId ∧ statusCodeOf j = .ok e.statusCode)
      list.elements entries

/-- The goals after an entry: an active one with a final code is noted to be final. -/
def Handler.afterStatus (actionName : Str) (h : Handler) (e : GoalStatus) : Handler :=
  if h.isUUIDActive actionName e.goalId && e.statusCode.isFinal then
    h.eraseActionUUID e.goalId .finalStatus
  else h

/-- The entries whose goal is active when they are reached, each with the goals that it finds. -/
def Handler.notified (actionName : Str) (h : Handler) (entries : List GoalStatus) :
    List (Handler × GoalStatus) :=
  (visits (Handler.afterStatus actionName) h entries).filter
    fun m => m.1.isUUIDActive actionName m.2.goalId

/-- What is done for an entry that is notified, in this order. -/
def statusEvents (env : Env) (msg : Message) (actionName : Str) (e : GoalStatus) : List Event :=
  (if e.statusCode.isFinal then [.erasedAction e.goalId .finalStatus] else []) ++
    statusTold env msg actionName e.goalId (e.statusCode, statusMessage e.statusCode)

/-- The state after an entry. -/
def State.afterStatus (s : State) (env : Env) (msg : Message) (actionName : Str) (e : GoalStatus) :
    State :=
  { s with handler := s.handler.afterStatus actionName e }.log
    (if s.handler.isUUIDActive actionName e.goalId then statusEvents env msg actionName e else [])

section Loop

variable (env : Env) (msg : Message) (actionName : Str) (h : Handler) (e : GoalStatus)
  {entries : List GoalStatus} {list : List Json} {s : State} {u : UUID}

/-! ### One entry -/

lemma writeStatusList_afterStatus {j : Json} (hu : statusUuid j = .ok e.goalId)
    (hc : statusCodeOf j = .ok e.statusCode) (l : List Json) (s : State) :
    (writeStatusList env msg actionName (j :: l)).run s =
      (writeStatusList env msg actionName l).run (s.afterStatus env msg actionName e) := by
  have htell := notifyStatus_run env msg actionName e.goalId
    (e.statusCode, statusMessage e.statusCode)
  unfold State.afterStatus Handler.afterStatus statusEvents
  rw [writeStatusList]
  simp only [catchJson_ok hu, lift_ok, pure_bind]
  rw [run_bind_ok (readHandler_run s _)]
  rcases hactive : s.handler.isUUIDActive actionName e.goalId
  · simp
  · simp only [if_true, catchJson_ok hc, lift_ok, pure_bind, Bool.true_and]
    rcases hfin : e.statusCode.isFinal
    · simp only [Bool.false_eq_true, if_false]
      rw [run_bind_ok (htell s)]
      rfl
    · simp only [if_true]
      rw [run_bind_ok (eraseActionUUID_run s _ _), run_bind_ok (htell _), log_log]

lemma entry_afterStatus_ne (hne : u ≠ e.goalId) :
    (h.afterStatus actionName e).entry u = h.entry u := by
  unfold Handler.afterStatus
  split
  · rw [Handler.entry_eraseActionUUID, if_neg hne]
  · rfl

lemma entry_afterStatus_idle (hidle : h.isUUIDActive actionName e.goalId = false) :
    h.afterStatus actionName e = h := by
  unfold Handler.afterStatus
  rw [hidle]
  rfl

lemma isUUIDActive_iff : h.isUUIDActive actionName u = true ↔
    ∃ i, h.entry u = some i ∧ i.actionName = actionName := by
  unfold Handler.isUUIDActive Handler.activeInfo
  rcases h.entry u with _ | i
  · simp
  · simp [eq_comm]

lemma entry_afterStatus_final {i : ActionRequestInfo} (hi : h.entry e.goalId = some i)
    (hname : i.actionName = actionName) (hfin : e.statusCode.isFinal = true) :
    (h.afterStatus actionName e).entry e.goalId =
      if i.resultReceived then none else some { i with finalStatusReceived := true } := by
  have hactive : h.isUUIDActive actionName e.goalId = true :=
    (isUUIDActive_iff actionName h).mpr ⟨i, hi, hname⟩
  unfold Handler.afterStatus
  rw [hactive, hfin, Bool.and_self, if_pos rfl, Handler.entry_eraseActionUUID, if_pos rfl, hi]
  simp [Handler.eraseFlag, ActionRequestInfo.erase]

/-! ### The list -/

lemma writeStatusList_run
    (hl : List.Forall₂ (fun j e => statusUuid j = .ok e.goalId ∧ statusCodeOf j = .ok e.statusCode)
      list entries) (s : State) :
    (writeStatusList env msg actionName list).run s =
      .ok () ({ s with handler := run (Handler.afterStatus actionName) s.handler entries }.log
        ((s.handler.notified actionName entries).flatMap
          fun m : Handler × GoalStatus => statusEvents env msg actionName m.2)) := by
  induction hl generalizing s with
  | nil => simp [writeStatusList, Handler.notified]
  | @cons j e list entries hj _ ih =>
    rw [writeStatusList_afterStatus env msg actionName e hj.1 hj.2, ih]
    unfold State.afterStatus Handler.notified
    rw [visits_cons, List.filter_cons]
    rcases hactive : s.handler.isUUIDActive actionName e.goalId
    · simp [State.log]
    · simp [State.log]

lemma entry_of_not_notified
    (hu : ∀ m ∈ h.notified actionName entries, m.2.goalId ≠ u) :
    (run (Handler.afterStatus actionName) h entries).entry u = h.entry u := by
  refine run_frame (f := fun h : Handler => h.entry u) fun m hm => ?_
  rcases hactive : m.1.isUUIDActive actionName m.2.goalId
  · rw [entry_afterStatus_idle actionName m.1 m.2 hactive]
  · have hne := hu m (List.mem_filter.mpr ⟨hm, hactive⟩)
    exact entry_afterStatus_ne actionName m.1 m.2 hne.symm

/-! ### What the list comes to -/

/-- The list has a final code for the goal. -/
def endsGoal (u : UUID) (l : List GoalStatus) : Bool :=
  l.any fun e => e.goalId = u && e.statusCode.isFinal

/-- What the list leaves of the entry of a goal. -/
def closed (actionName : Str) (u : UUID) (l : List GoalStatus) (i : ActionRequestInfo) :
    Option ActionRequestInfo :=
  if i.actionName = actionName && endsGoal u l then
    if i.resultReceived then none else some { i with finalStatusReceived := true }
  else some i

lemma entry_afterStatus :
    (h.afterStatus actionName e).entry u = (h.entry u).bind (closed actionName u [e]) := by
  by_cases hu : e.goalId = u
  · subst hu
    rcases hi : h.entry e.goalId with _ | i
    · have hidle : h.isUUIDActive actionName e.goalId = false := by
        rw [← Bool.not_eq_true, isUUIDActive_iff]
        simp [hi]
      rw [entry_afterStatus_idle actionName h e hidle, hi]
      rfl
    · rw [Option.bind_some]
      unfold closed endsGoal
      by_cases hname : i.actionName = actionName
      · rcases hfin : e.statusCode.isFinal
        · simp [Handler.afterStatus, hfin, hi]
        · rw [entry_afterStatus_final actionName h e hi hname hfin]
          simp [hname, hfin]
      · have hidle : h.isUUIDActive actionName e.goalId = false := by
          rw [← Bool.not_eq_true, isUUIDActive_iff]
          simpa [hi] using hname
        rw [entry_afterStatus_idle actionName h e hidle, hi]
        simp [hname]
  · rw [entry_afterStatus_ne actionName h e (Ne.symm hu)]
    have hsame : closed actionName u [e] = some := by
      funext i
      simp [closed, endsGoal, hu]
    rw [hsame, Option.bind_fun_some]

lemma closed_cons (l : List GoalStatus) (i : ActionRequestInfo) :
    (closed actionName u [e] i).bind (closed actionName u l) = closed actionName u (e :: l) i := by
  unfold closed endsGoal
  rw [List.any_cons, List.any_cons, List.any_nil, Bool.or_false]
  by_cases hname : i.actionName = actionName
  · rcases (decide (e.goalId = u) && e.statusCode.isFinal)
    · simp
    · cases i.resultReceived <;> simp [hname]
  · simp [hname]

/-- **The goals after a status list**: those with a final code are final, or gone. -/
theorem entry_run_afterStatus (l : List GoalStatus) :
    (run (Handler.afterStatus actionName) h l).entry u =
      (h.entry u).bind (closed actionName u l) := by
  induction l generalizing h with
  | nil =>
    have hsame : closed actionName u [] = some := by
      funext i
      simp [closed, endsGoal]
    rw [hsame, Option.bind_fun_some]
    rfl
  | cons e l ih =>
    rw [run_cons, ih, entry_afterStatus, Option.bind_assoc]
    exact congrArg _ (funext (closed_cons actionName e l))

/-- **A goal is active when an entry is reached** if it was before, and its result had not been
received or no final code for it stands before the entry. -/
theorem active_when_reached (k : ℕ) :
    (run (Handler.afterStatus actionName) h (entries.take k)).isUUIDActive actionName u = true ↔
      ∃ i, h.entry u = some i ∧ i.actionName = actionName ∧
        (i.resultReceived = true → endsGoal u (entries.take k) = false) := by
  rw [isUUIDActive_iff, entry_run_afterStatus]
  rcases h.entry u with _ | i
  · simp
  · by_cases hname : i.actionName = actionName
    · rcases hr : i.resultReceived <;> rcases hend : endsGoal u (entries.take k) <;>
        simp [closed, hname, hr, hend]
    · simp [closed, hname]

end Loop

/-- What a status message does: it notifies, in the order of the list, the entries whose goal is
active when they are reached. -/
structure ProcessesStatuses (env : Env) (msg : Message) (actionName : Str)
    (entries : List GoalStatus) (s t : State) : Prop where
  trace : t.trace = s.trace ++ (s.handler.notified actionName entries).flatMap
    fun m => statusEvents env msg actionName m.2
  goals : t.handler = run (Handler.afterStatus actionName) s.handler entries
  /-- A final code is noted, and the goal goes if its result has been received. -/
  final : ∀ m ∈ s.handler.notified actionName entries, m.2.statusCode.isFinal = true →
    ∃ i, m.1.entry m.2.goalId = some i ∧ i.actionName = actionName ∧
      (m.1.afterStatus actionName m.2).entry m.2.goalId =
        if i.resultReceived then none else some { i with finalStatusReceived := true }
  untouched : ∀ u, (∀ m ∈ s.handler.notified actionName entries, m.2.goalId ≠ u) →
    t.handler.entry u = s.handler.entry u
  participant : t.participant = s.participant

/-- **Status messages are processed exactly.** -/
theorem status_list_processed (env : Env) (msg : Message) (dynType : DynType) (actionName : Str)
    (entries : List GoalStatus) (h : IsStatusMessage env msg dynType entries) (s : State) :
    ∃ t, (writeActionStatusNotification env msg dynType actionName).run s = .ok () t ∧
      ProcessesStatuses env msg actionName entries s t := by
  obtain ⟨d, list, hd, hlist, hentries⟩ := h
  have hfound : (msg.dataOf (msg.wrap d)).bind (·.index "status_list".toList) = .ok list := by
    rw [Message.dataOf_wrap]
    exact hlist
  have hstart : (writeActionStatusNotification env msg dynType actionName).run s =
      (writeStatusList env msg actionName list.elements).run s := by
    unfold writeActionStatusNotification
    simp only [prepareJsonData_of_decode hd, catchJson_ok hfound, lift_ok, pure_bind]
  refine ⟨_, hstart.trans (writeStatusList_run env msg actionName hentries s), rfl, rfl,
    fun m hm hfin => ?_, fun u hu => ?_, rfl⟩
  · obtain ⟨i, hi, hname⟩ := (isUUIDActive_iff actionName m.1).mp (List.mem_filter.mp hm).2
    exact ⟨i, hi, hname, entry_afterStatus_final actionName m.1 m.2 hi hname hfin⟩
  · exact entry_of_not_notified actionName s.handler hu

/-- The null goal is listed twice as succeeded. -/
def succeededTwice : Json :=
  let entry := Json.obj [("goal_info".toList, .obj [RpcUtils.goalId .null, RpcUtils.stamp 0]),
    ("status".toList, .int StatusCode.succeeded.toInt)]
  .obj [("status_list".toList, .arr [entry, entry])]

def statusEnv : Env :=
  { Env.silent with
    callbacks := { Callbacks.unset with actionStatusNotification := true }
    decode := fun _ _ => some succeededTwice }

/-- The null goal is active, and its result has been received. -/
def receivedState : State :=
  { handler := ({} : Handler).insertEntry .null
      { actionName := [], protocol := .ros2, goalAcceptedStamp := 0, resultReceived := true } }

lemma succeededTwice_isStatusMessage :
    IsStatusMessage statusEnv ⟨{}, [], [], [], 0⟩ ⟨[], 0⟩
      [⟨.null, .succeeded⟩, ⟨.null, .succeeded⟩] := by
  have hentry := And.intro (statusUuid_entry .null .succeeded 0)
    (statusCodeOf_entry .null (c := .succeeded) (StatusCode.valid_of_named nofun) 0)
  exact ⟨succeededTwice, _, rfl, rfl, .cons hentry (.cons hentry .nil)⟩

theorem status_list_processed_twice :
    ∃ t, (writeActionStatusNotification statusEnv ⟨{}, [], [], [], 0⟩ ⟨[], 0⟩ []).run
        receivedState = .ok () t ∧
      ProcessesStatuses statusEnv ⟨{}, [], [], [], 0⟩ []
        [⟨.null, .succeeded⟩, ⟨.null, .succeeded⟩] receivedState t :=
  status_list_processed statusEnv ⟨{}, [], [], [], 0⟩ ⟨[], 0⟩ []
    [⟨.null, .succeeded⟩, ⟨.null, .succeeded⟩] succeededTwice_isStatusMessage receivedState

/-- The second entry finds the goal gone. -/
example : (receivedState.handler.notified []
    [⟨.null, .succeeded⟩, ⟨.null, .succeeded⟩]).length = 1 := by decide +kernel

end DdsEnabler
