import DdsEnabler.Announcing

/-!
Announcements of one action by several clients at once.

An action is announced with five waits, one for each of its services and topics, and its entry is
made after the last. What has been served is reached by weak pointers in between, and a call that
begins erases the services first. So a second call can break an action under construction even if
it fails in the end: it has to be turned away before it gets that far, or while the first call has
not yet entered a service.
-/

namespace DdsEnabler

open Exec Runs Tables RpcInfo

/-! ### Calls in pieces -/

/-- A call of `announce_action` in one of its waits, with the action as far as it is filled in:
for the reader of a service and the endpoint simulated for it, of the feedback or the status. -/
inductive ActionWait
  | service (info : ActionInfo) (action : ActionDiscovered) (t : ActionType)
      (service : ServiceDiscovered) (request : Endpoint)
  | feedback (info : ActionInfo) (action : ActionDiscovered) (topic : DdsTopic)
  | status (action : ActionDiscovered) (topic : DdsTopic)

abbrev ActionCall := Call ActionWait ActionDiscovered

/-- The topic whose reader is awaited. -/
def ActionWait.awaited : ActionWait → DdsTopic
  | .service _ _ _ v _ => v.topicRequest
  | .feedback _ _ topic => topic
  | .status _ topic => topic

/-- What the user has told of a service of the action. -/
def ActionInfo.service (i : ActionInfo) : ActionType → ServiceInfo
  | .cancel => i.cancel
  | .result => i.result
  | _ => i.goal

section Pieces

variable (env : Env) (actionName : Str)

/-- The end of `announce_action`. -/
def enterAction (action : ActionDiscovered) : M ActionCall := do
  let action := { action with fullyDiscovered := true, enablerAsServer := true }
  onParticipant fun p => ((), p.setAction actionName action)
  return .built action

/-- What follows the wait for a topic, once the reader is there. -/
def wakeTopic (timedOut : Bool) (wait : DdsTopic → ActionWait) (next : DdsTopic → M ActionCall)
    (topic : DdsTopic) : M ActionCall := do
  match ← readParticipant (·.lookupReader topic.topicName) with
  | some _ => next topic
  | none => return if timedOut then .failed else .waiting (wait topic)

/-- A topic of the action, up to the wait unless a reader is found under the name `lookedUp`. -/
def startTopic (info : TopicInfo) (topicName lookedUp : Str) (wait : DdsTopic → ActionWait)
    (next : DdsTopic → M ActionCall) : M ActionCall := do
  match ← fillTopicStruct env topicName info with
  | none => return .failed
  | some topic =>
    match ← readParticipant (·.lookupReader lookedUp) with
    | some _ => next topic
    | none =>
      let _ ← onParticipant (·.simulateEndpoint topic)
      return .waiting (wait topic)

def withStatus (action : ActionDiscovered) (topic : DdsTopic) : M ActionCall :=
  enterAction actionName { action with status := topic, statusDiscovered := true }

/-- The reader is looked up under the name of `action.status`, not yet filled in. -/
def startStatus (info : ActionInfo) (action : ActionDiscovered) : M ActionCall :=
  startTopic env info.status (rosTopicPrefix ++ actionName ++ actionStatusSuffix)
    action.status.topicName (.status action) (withStatus actionName action)

def withFeedback (info : ActionInfo) (action : ActionDiscovered) (topic : DdsTopic) :
    M ActionCall :=
  startStatus env actionName info { action with feedback := topic, feedbackDiscovered := true }

def startFeedback (info : ActionInfo) (action : ActionDiscovered) : M ActionCall :=
  startTopic env info.feedback (rosTopicPrefix ++ actionName ++ actionFeedbackSuffix)
    (rosTopicPrefix ++ actionName ++ actionFeedbackSuffix) (.feedback info action)
    (withFeedback env actionName info action)

/-- A service of the action, up to the wait. -/
def startPart (info : ActionInfo) (action : ActionDiscovered) (t : ActionType) :
    M ActionCall := do
  match ← fillServiceType env (info.service t)
      { serviceName := partName actionName t, protocol := .ros2 } .ros2 with
  | none => return .failed
  | some service =>
    match ← readParticipant (·.lookupReader service.topicRequest.topicName) with
    | some _ => return .failed
    | none =>
      return .waiting (.service info action t service
        (← onParticipant (·.simulateEndpoint service.topicRequest)))

/-- What is announced after a service: another service, or the feedback topic. -/
def nextPart (info : ActionInfo) (action : ActionDiscovered) : ActionType → M ActionCall
  | .goal => startPart env actionName info action .cancel
  | .cancel => startPart env actionName info action .result
  | _ => startFeedback env actionName info action

/-- What follows the wait for a service: it is entered, once the reader is there. -/
def wakePart (timedOut : Bool) (info : ActionInfo) (action : ActionDiscovered) (t : ActionType)
    (service : ServiceDiscovered) (request : Endpoint) : M ActionCall := do
  match ← readParticipant (·.lookupReader service.topicRequest.topicName) with
  | some _ =>
    insertService (partName actionName t) { service with endpointRequest := some request }
    let ref ← readParticipant (·.services.weak (partName actionName t))
    nextPart env actionName info (action.withPart (some ref) t) t
  | none => return if timedOut then .failed else .waiting (.service info action t service request)

def wakeAction (timedOut : Bool) : ActionWait → M ActionCall
  | .service info action t service request =>
    wakePart env actionName timedOut info action t service request
  | .feedback info action topic =>
    wakeTopic timedOut (.feedback info action) (withFeedback env actionName info action) topic
  | .status action topic =>
    wakeTopic timedOut (.status action) (withStatus actionName action) topic

/-- The start of `query_action_nts_`. -/
def startQuery : M ActionCall :=
  match env.callbacks.actionQuery with
  | none => return .failed
  | some query =>
    match query actionName with
    | none => return .failed
    | some info => do
      eraseService (partName actionName .goal)
      eraseService (partName actionName .cancel)
      eraseService (partName actionName .result)
      startPart env actionName info { actionName, protocol := .ros2 } .goal

/-- `announce_action` up to its first wait. -/
def startAction (protocol : Protocol) : M ActionCall := do
  if protocol ≠ .ros2 then return .failed
  else
    let p ← readParticipant id
    match p.actions.lookup actionName with
    | none => startQuery env actionName
    | some a =>
      if a.enablerAsServer then return .failed
      else
        match p.services.lock a.goal, p.services.lock a.result, p.services.lock a.cancel with
        | some goal, some result, some cancel =>
          onParticipant fun p => ((), p.reannounce actionName a goal result cancel)
          return .flagged
        | _, _, _ =>
          onParticipant fun p => ((), { p with actions := p.actions.erase actionName })
          startQuery env actionName

end Pieces

def announcingAction (actionName : Str) : Announcement ActionWait ActionDiscovered where
  start env := startAction env actionName
  wake env := wakeAction env actionName

/-! ### The pieces make the whole -/

/-- A call goes through its next wait, with nobody else about. -/
abbrev awaitAction (env : Env) (actionName : Str) : ActionCall → M ActionCall :=
  (announcingAction actionName).await ActionWait.awaited env

section Whole

variable {env : Env} {actionName : Str}

/-- What is left to do of a call, that is to return once it has ended. -/
def Ends (rest : ActionCall → M Bool) : Prop :=
  ∀ c : ActionCall, (∀ w, c ≠ .waiting w) → rest c = pure c.answer

lemma ends_answer : Ends fun c => pure c.answer := fun _ _ => rfl

lemma Ends.await {rest : ActionCall → M Bool} (h : Ends rest) :
    Ends fun c => awaitAction env actionName c >>= rest := by
  intro c hc
  cases c with
  | waiting w => exact absurd rfl (hc w)
  | idle => exact (pure_bind _ _).trans (h _ hc)
  | failed => exact (pure_bind _ _).trans (h _ hc)
  | flagged => exact (pure_bind _ _).trans (h _ hc)
  | built b => exact (pure_bind _ _).trans (h _ hc)

lemma announceActionService_bind {rest : ActionCall → M Bool} (hrest : Ends rest)
    {info : ActionInfo} {action : ActionDiscovered} {t : ActionType}
    {next : Option WeakRef → M Bool} (hnone : next none = pure false)
    (hsome : ∀ ref, next (some ref) =
      nextPart env actionName info (action.withPart (some ref) t) t >>= rest) :
    (announceActionService env (info.service t) (partName actionName t) .ros2 >>= next) =
      (startPart env actionName info action t >>= fun c =>
        awaitAction env actionName c >>= rest) := by
  have hfailed : rest .failed = pure false := hrest .failed (by simp)
  unfold announceActionService startPart
  simp only [bind_assoc]
  refine bind_congr fun r => ?_
  rcases r with _ | service
  · simp only [pure_bind, hnone]
    exact (hrest.await .failed (by simp)).symm
  · simp only [createServiceRequestWriter, createTopicWriter_eq, bind_assoc, pure_bind]
    refine bind_congr fun r => ?_
    rcases r with _ | f
    · simp only [bind_assoc, pure_bind]
      refine bind_congr fun request => ?_
      change _ = (do
        awaitReader env service.topicRequest
        wakePart env actionName true info action t service request) >>= rest
      simp only [bind_assoc]
      refine bind_congr fun _ => ?_
      unfold wakePart
      simp only [bind_assoc]
      refine bind_congr fun r => ?_
      rcases r with _ | f
      · simp [hnone, hfailed]
      · simp only [bind_assoc, pure_bind, hsome]
    · simp only [pure_bind, hnone]
      exact (hrest.await .failed (by simp)).symm

lemma announceActionTopic_bind {rest : ActionCall → M Bool} (hrest : Ends rest)
    {info : TopicInfo} {topicName lookedUp : Str} {wait : DdsTopic → ActionWait}
    {after : DdsTopic → M ActionCall} {next : Option DdsTopic → M Bool}
    (hnone : next none = pure false)
    (hsome : ∀ topic, next (some topic) = after topic >>= rest)
    (hfound : ∀ topic, next (some topic) = after topic >>= fun c =>
      awaitAction env actionName c >>= rest)
    (hawaited : ∀ topic, (wait topic).awaited = topic)
    (hwake : ∀ topic, wakeAction env actionName true (wait topic) =
      wakeTopic true wait after topic) :
    (announceActionTopic env info topicName lookedUp >>= next) =
      (startTopic env info topicName lookedUp wait after >>= fun c =>
        awaitAction env actionName c >>= rest) := by
  have hfailed : rest .failed = pure false := hrest .failed (by simp)
  have hawait : ∀ topic, awaitAction env actionName (.waiting (wait topic)) = (do
      awaitReader env topic
      wakeTopic true wait after topic) := by
    intro topic
    change (do
      awaitReader env (wait topic).awaited
      wakeAction env actionName true (wait topic)) = _
    rw [hawaited, hwake]
  unfold announceActionTopic startTopic
  simp only [bind_assoc]
  refine bind_congr fun r => ?_
  rcases r with _ | topic
  · simp only [pure_bind, hnone]
    exact (hrest.await .failed (by simp)).symm
  · simp only [bind_assoc]
    refine bind_congr fun r => ?_
    rcases r with _ | f
    · simp only [createTopicWriter_eq, bind_assoc, pure_bind, hawait]
      refine bind_congr fun _ => bind_congr fun _ => ?_
      unfold wakeTopic
      simp only [bind_assoc]
      refine bind_congr fun r => ?_
      rcases r with _ | f
      · simp [hnone, hfailed]
      · simp only [pure_bind, hsome]
    · simp only [pure_bind, hfound]

lemma startStatus_eq {rest : ActionCall → M Bool} (hrest : Ends rest) (info : ActionInfo)
    (action : ActionDiscovered) :
    (startStatus env actionName info action >>= fun c => awaitAction env actionName c >>= rest) =
      (announceActionTopic env info.status (rosTopicPrefix ++ actionName ++ actionStatusSuffix)
        action.status.topicName >>= fun
        | none => pure false
        | some status => do
          onParticipant fun p => ((), p.setAction actionName { action with
            status, statusDiscovered := true, fullyDiscovered := true, enablerAsServer := true })
          return true) := by
  have hbuilt : ∀ a, rest (.built a) = pure true := fun a => hrest (.built a) (by simp)
  have hbuilt' : ∀ a, awaitAction env actionName (.built a) >>= rest = pure true :=
    fun a => hrest.await (.built a) (by simp)
  refine (announceActionTopic_bind hrest rfl ?_ ?_ (fun _ => rfl) fun _ => rfl).symm
  · intro topic
    simp [withStatus, enterAction, hbuilt]
  · intro topic
    simp [withStatus, enterAction, hbuilt']

lemma startFeedback_eq {rest : ActionCall → M Bool} (hrest : Ends rest) (info : ActionInfo)
    (action : ActionDiscovered) :
    (startFeedback env actionName info action >>= fun c => awaitAction env actionName c >>=
      fun c => awaitAction env actionName c >>= rest) =
      (announceActionTopic env info.feedback
          (rosTopicPrefix ++ actionName ++ actionFeedbackSuffix)
          (rosTopicPrefix ++ actionName ++ actionFeedbackSuffix) >>= fun
        | none => pure false
        | some feedback =>
          startStatus env actionName info { action with feedback, feedbackDiscovered := true } >>=
            fun c => awaitAction env actionName c >>= rest) := by
  refine (announceActionTopic_bind hrest.await rfl (fun _ => rfl) ?_ (fun _ => rfl)
    fun _ => rfl).symm
  intro topic
  simp only [withFeedback, startStatus_eq hrest, startStatus_eq hrest.await]

/-- A new action is announced in pieces: its five parts, each with a wait. -/
lemma announceNewAction_eq (env : Env) (actionName : Str) :
    announceNewAction env actionName .ros2 = startQuery env actionName >>=
      (announcingAction actionName).settle ActionWait.awaited env 5 := by
  have hends : ∀ n, Ends ((announcingAction actionName).settle ActionWait.awaited env n) := by
    intro n
    induction n with
    | zero => exact ends_answer
    | succ n ih => exact ih.await
  unfold announceNewAction queryAction startQuery
  rcases env.callbacks.actionQuery with _ | query
  · exact (hends 5 .failed (by simp)).symm
  · rcases hinfo : query actionName with _ | info
    · simp only [hinfo]
      exact (hends 5 .failed (by simp)).symm
    · simp only [hinfo, bind_assoc]
      refine bind_congr fun _ => bind_congr fun _ => bind_congr fun _ => ?_
      unfold queryActionParts
      simp only [bind_assoc]
      refine announceActionService_bind (t := .goal) (hends 4) (by simp) fun goal => ?_
      simp only [bind_assoc]
      refine announceActionService_bind (t := .cancel) (hends 3) (by simp) fun cancel => ?_
      simp only [bind_assoc]
      refine announceActionService_bind (t := .result) (hends 2) (by simp) fun result => ?_
      simp only [topicPrefix, bind_assoc]
      refine Eq.trans ?_ (startFeedback_eq ends_answer info _).symm
      refine bind_congr fun r => ?_
      rcases r with _ | feedback
      · rfl
      · simp only [startStatus_eq ends_answer, bind_assoc]
        refine bind_congr fun r => ?_
        rcases r with _ | status
        · rfl
        · rfl

/-- The pieces make the whole, where nothing comes between them but the creation of readers. -/
theorem announceAction_eq (env : Env) (actionName : Str) (protocol : Protocol) :
    announceAction env actionName protocol = (do
      let c ← startAction env actionName protocol
      (announcingAction actionName).settle ActionWait.awaited env 5 c) := by
  unfold announceAction startAction
  by_cases hprotocol : protocol ≠ .ros2
  · rw [if_pos hprotocol, if_pos hprotocol]
    rfl
  · obtain rfl := not_not.mp hprotocol
    simp only [ne_eq, not_true_eq_false, if_false, bind_assoc]
    refine bind_congr fun p => ?_
    rcases p.actions.lookup actionName with _ | a
    · exact announceNewAction_eq env actionName
    · rcases ha : a.enablerAsServer
      · have hnew : ∀ x : M Unit, (x >>= fun _ => announceNewAction env actionName .ros2) =
            (x >>= fun _ => startQuery env actionName) >>=
              (announcingAction actionName).settle ActionWait.awaited env 5 := by
          intro x
          rw [announceNewAction_eq, bind_assoc]
        simp only [ha, Bool.false_eq_true, if_false]
        rcases p.services.lock a.goal with _ | goal
        · exact hnew _
        · rcases p.services.lock a.result with _ | result
          · exact hnew _
          · rcases p.services.lock a.cancel with _ | cancel
            · exact hnew _
            · rfl
      · simp only [ha, if_true]
        rfl

end Whole

/-! ### What a call owns -/

/-- The services that have been announced when a part of the action is. -/
def earlier : ActionType → List ActionType
  | .goal => []
  | .cancel => [.goal]
  | .result => [.goal, .cancel]
  | _ => [.goal, .cancel, .result]

/-- The service that is announced after another one. -/
def nextService : ActionType → Option ActionType
  | .goal => some .cancel
  | .cancel => some .result
  | _ => none

/-- The action points to the entry of its service, whose endpoint is the only one for its request
topic. -/
def OwnsPart (actionName : Str) (p : Participant) (a : ActionDiscovered) (t : ActionType) : Prop :=
  a.ref t = some (p.services.weak (partName actionName t)) ∧
    ∃ v e, p.services.find (partName actionName t) = some v ∧ v.endpointRequest = some e ∧
      v.topicRequest.topicName = partTopic actionName t ∧
      OnlyEndpoint (partName actionName t) p v e

/-- The entry in the map is the action that has been built: discoveries leave its identity and its
pointers. -/
structure SameAction (a a' : ActionDiscovered) : Prop where
  name : a'.actionName = a.actionName
  protocol : a'.protocol = a.protocol
  server : a'.enablerAsServer = a.enablerAsServer
  ref : ∀ t, a'.ref t = a.ref t

/-- What the engaged call owns: the services it has announced, the endpoint of the one it waits
for, and at the end the entry. -/
def OwnsAction (actionName : Str) (p : Participant) : ActionCall → Prop
  | .waiting (.service _ a t v e) => isServicePart t ∧
      v.topicRequest.topicName = partTopic actionName t ∧
      OnlyEndpoint (partName actionName t) p v e ∧ ∀ t' ∈ earlier t, OwnsPart actionName p a t'
  | .waiting (.feedback _ a _) => ∀ t ∈ earlier .feedback, OwnsPart actionName p a t
  | .waiting (.status a _) => ∀ t ∈ earlier .status, OwnsPart actionName p a t
  | .flagged => ∃ a, p.actions.lookup actionName = some a ∧ a.enablerAsServer = true
  | .built a => (∃ a', p.actions.lookup actionName = some a' ∧ SameAction a a') ∧
      a.enablerAsServer = true ∧ ∀ t, isServicePart t → OwnsPart actionName p a t
  | _ => True

/-- Nothing that a part of the action stands for changes. -/
structure PartSame (actionName : Str) (t : ActionType) (p p' : Participant) : Prop where
  find : p'.services.find (partName actionName t) = p.services.find (partName actionName t)
  generation : p'.services.generation (partName actionName t) =
    p.services.generation (partName actionName t)
  endpoints : p'.endpointsOf (partTopic actionName t) = p.endpointsOf (partTopic actionName t)

section Parts

variable {actionName : Str} {p p' : Participant} {a : ActionDiscovered} {t t' : ActionType}

lemma OwnsPart.congr (h : OwnsPart actionName p a t) (hp : PartSame actionName t p p') :
    OwnsPart actionName p' a t := by
  obtain ⟨href, v, e, hv, he, htopic, honly⟩ := h
  refine ⟨?_, v, e, hp.find.trans hv, he, htopic, honly.congr ?_⟩
  · rw [href, ServiceMap.weak, ServiceMap.weak, hp.generation]
  · rw [htopic]
    exact hp.endpoints

lemma OwnsPart.ref_congr {a' : ActionDiscovered} (h : OwnsPart actionName p a t)
    (ha : a'.ref t = a.ref t) : OwnsPart actionName p a' t := ⟨ha.trans h.1, h.2⟩

lemma OwnsPart.entered {topic : DdsTopic} (h : OwnsPart actionName p a t)
    (hq : EnteredAs topic p p') : OwnsPart actionName p' a t := by
  have hpart := h
  obtain ⟨-, v, e, hv, -, -, honly⟩ := hpart
  refine h.congr ⟨?_, generation_entered hq _, endpointsOf_entered hq _⟩
  obtain ⟨v', hv', -, hsame⟩ := find_entered hq hv
  rw [hv', hv, hsame honly.request honly.reply]

lemma mem_earlier (ht : isServicePart t) : t' ∈ earlier t → isServicePart t' ∧ t' ≠ t := by
  cases t <;> cases t' <;> simp_all [earlier, isServicePart]

lemma mem_earlier_feedback : t ∈ earlier .feedback ↔ isServicePart t := by
  cases t <;> simp [earlier, isServicePart]

lemma partSame_simulateEndpoint {topic : DdsTopic}
    (h : topic.topicName ≠ partTopic actionName t) :
    PartSame actionName t p (p.simulateEndpoint topic).2 :=
  ⟨rfl, rfl, by rw [endpointsOf_simulateEndpoint, if_neg h]⟩

lemma partSame_insertOrAssign (ht : isServicePart t) (ht' : isServicePart t') (hne : t' ≠ t)
    (v : ServiceDiscovered) : PartSame actionName t' p
      { p with services := p.services.insertOrAssign (partName actionName t) v } := by
  have hname : partName actionName t' ≠ partName actionName t := partName_ne ht' ht hne
  refine ⟨?_, ?_, rfl⟩
  · rw [ServiceMap.find_insertOrAssign, if_neg hname]
  · rw [ServiceMap.generation_insertOrAssign, if_neg hname]

lemma ref_withPart (ht : isServicePart t) (w : Option WeakRef) :
    (a.withPart w t).ref t' = if t' = t then w else a.ref t' := by
  cases t <;> cases t' <;> first | rfl | cases ht

end Parts

/-! ### Each piece leaves what the call owns -/

/-- A call that is engaged after the piece owns what it should. -/
def Yields (actionName : Str) (x : M ActionCall) (s : State) : Prop :=
  ∀ y t, x.run s = .ok y t → y.Engaged → OwnsAction actionName t.participant y

section Pieces

variable {env : Env} {actionName : Str} {info : ActionInfo} {action : ActionDiscovered}
  {t : ActionType} {s : State} {timedOut : Bool}

lemma Yields.failed : Yields actionName (return .failed) s := by
  intro y t h hy
  cases h
  exact absurd hy Call.not_engaged_failed

lemma Yields.pure {c : ActionCall} (h : OwnsAction actionName s.participant c) :
    Yields actionName (return c) s := by
  intro y t hrun hy
  cases hrun
  exact h

lemma Yields.bind {α : Type} {x : M α} {f : α → M ActionCall}
    (h : ∀ r u, x.run s = .ok r u → Yields actionName (f r) u) : Yields actionName (x >>= f) s := by
  intro y t hrun hy
  obtain ⟨r, u, hx, hf⟩ := ok_of_bind hrun
  exact h r u hx y t hf hy

lemma yields_read {α : Type} {f : Participant → α} {g : α → M ActionCall}
    (h : Yields actionName (g (f s.participant)) s) :
    Yields actionName (readParticipant f >>= g) s := by
  refine Yields.bind fun r u hread => ?_
  rw [readParticipant_run] at hread
  injection hread with hr hu
  subst hr
  subst hu
  exact h

lemma yields_change {α : Type} {f : Participant → α × Participant} {g : α → M ActionCall}
    (h : Yields actionName (g (f s.participant).1) { s with participant := (f s.participant).2 }) :
    Yields actionName (onParticipant f >>= g) s := by
  refine Yields.bind fun r u hchange => ?_
  rw [onParticipant_run] at hchange
  injection hchange with hr hu
  subst hr
  subst hu
  exact h

/-- All services of the action have been announced. -/
abbrev OwnsParts (actionName : Str) (p : Participant) (a : ActionDiscovered) : Prop :=
  ∀ t ∈ earlier .feedback, OwnsPart actionName p a t

lemma yields_enterAction (h : OwnsParts actionName s.participant action) :
    Yields actionName (enterAction actionName action) s := by
  refine yields_change (Yields.pure
    ⟨⟨_, AList.lookup_insert _, rfl, rfl, rfl, fun _ => rfl⟩, rfl, fun t ht => ?_⟩)
  have hpart : OwnsPart actionName (s.participant.setAction actionName
      { action with fullyDiscovered := true, enablerAsServer := true }) action t :=
    (h t (mem_earlier_feedback.mpr ht)).congr ⟨rfl, rfl, rfl⟩
  exact hpart.ref_congr (by cases t <;> rfl)

lemma yields_wakeTopic {wait : DdsTopic → ActionWait} {next : DdsTopic → M ActionCall}
    {topic : DdsTopic} (hwait : OwnsAction actionName s.participant (.waiting (wait topic)))
    (hnext : Yields actionName (next topic) s) :
    Yields actionName (wakeTopic timedOut wait next topic) s := by
  refine yields_read ?_
  rcases s.participant.lookupReader topic.topicName with _ | f
  · cases timedOut
    · exact Yields.pure hwait
    · exact Yields.failed
  · exact hnext

lemma topic_ne_part {t' : ActionType} (ht : isServicePart t = false) (hnone : t ≠ .none)
    (ht' : isServicePart t') : partTopic actionName t ≠ partTopic actionName t' := by
  intro h
  have hnone' : t' ≠ .none := by rintro rfl; cases ht'
  obtain ⟨-, rfl⟩ := partTopic_inj hnone hnone' h
  rw [ht] at ht'
  cases ht'

lemma yields_startTopic {topicInfo : TopicInfo} {lookedUp : Str} {wait : DdsTopic → ActionWait}
    {next : DdsTopic → M ActionCall} (ht : isServicePart t = false) (hnone : t ≠ .none)
    (h : OwnsParts actionName s.participant action)
    (hwait : ∀ topic p, OwnsParts actionName p action →
      OwnsAction actionName p (.waiting (wait topic)))
    (hnext : ∀ topic u, OwnsParts actionName u.participant action →
      Yields actionName (next topic) u) :
    Yields actionName
      (startTopic env topicInfo (partTopic actionName t) lookedUp wait next) s := by
  refine Yields.bind fun r u hfill => ?_
  have hsame := (ignores_fillTopicStruct env _ _).participant hfill
  rcases r with _ | topic
  · exact Yields.failed
  · have hname := fillTopicStruct_some env hfill
    refine yields_read ?_
    rw [hsame]
    rcases s.participant.lookupReader lookedUp with _ | f
    · refine yields_change (Yields.pure (hwait topic _ fun t' ht' => ?_))
      rw [hsame]
      refine (h t' ht').congr (partSame_simulateEndpoint ?_)
      rw [hname]
      exact topic_ne_part ht hnone (mem_earlier_feedback.mp ht')
    · exact hnext topic u (hsame ▸ h)

lemma yields_withStatus (topic : DdsTopic) (h : OwnsParts actionName s.participant action) :
    Yields actionName (withStatus actionName action topic) s :=
  yields_enterAction fun t ht => (h t ht).ref_congr (by cases t <;> rfl)

lemma yields_startStatus (h : OwnsParts actionName s.participant action) :
    Yields actionName (startStatus env actionName info action) s :=
  yields_startTopic (t := .status) rfl (by decide) h (fun _ _ hp => hp) fun topic _ =>
    yields_withStatus topic

lemma yields_withFeedback (topic : DdsTopic) (h : OwnsParts actionName s.participant action) :
    Yields actionName (withFeedback env actionName info action topic) s :=
  yields_startStatus fun t ht => (h t ht).ref_congr (by cases t <;> rfl)

lemma yields_startFeedback (h : OwnsParts actionName s.participant action) :
    Yields actionName (startFeedback env actionName info action) s :=
  yields_startTopic (t := .feedback) rfl (by decide) h (fun _ _ hp => hp) fun topic _ =>
    yields_withFeedback topic

lemma fillServiceType_part {i : ServiceInfo} {service : ServiceDiscovered} {u : State}
    (ht : isServicePart t)
    (h : (fillServiceType env i { serviceName := partName actionName t, protocol := .ros2 }
      .ros2).run s = .ok (some service) u) :
    ∃ request reply, request.topicName = partTopic actionName t ∧
      service = .queried (partName actionName t) .ros2 request reply := by
  obtain ⟨request, reply, htopic, -, hservice⟩ := fillServiceType_some h
  rw [requestTopic_partName ht] at htopic
  exact ⟨request, reply, (Option.some.inj htopic).symm, hservice⟩

lemma yields_startPart (ht : isServicePart t)
    (hvacant : s.participant.Vacant (partTopic actionName t))
    (h : ∀ t' ∈ earlier t, OwnsPart actionName s.participant action t') :
    Yields actionName (startPart env actionName info action t) s := by
  refine Yields.bind fun r u hfill => ?_
  have hsame := (ignores_fillServiceType env _ _ _).participant hfill
  rcases r with _ | service
  · exact Yields.failed
  · obtain ⟨request, reply, hname, rfl⟩ := fillServiceType_part ht hfill
    have htopic : requestTopic .ros2 (partName actionName t) = some request.topicName := by
      rw [requestTopic_partName ht, hname]
    refine yields_read ?_
    simp only [ServiceDiscovered.queried, hsame, hname]
    rcases hr : s.participant.lookupReader (partTopic actionName t) with _ | f
    · refine yields_change (Yields.pure ⟨ht, hname, ⟨rfl, rfl, rfl, ⟨.ros2, htopic⟩, ?_⟩, ?_⟩)
      · have hempty := hvacant hr
        simp [endpointsOf_simulateEndpoint, hsame, hname, hempty]
      · intro t' ht'
        obtain ⟨hpart, hne⟩ := mem_earlier ht ht'
        have htopics : request.topicName ≠ partTopic actionName t' := by
          intro heq
          rw [hname] at heq
          have hnone : ∀ {t}, isServicePart t → t ≠ .none := by rintro t ht rfl; cases ht
          exact hne (partTopic_inj (hnone ht) (hnone hpart) heq).2.symm
        have hown := h t' ht'
        rw [← hsame] at hown
        exact hown.congr (partSame_simulateEndpoint htopics)
    · exact Yields.failed

lemma yields_nextPart (ht : isServicePart t)
    (hvacant : ∀ t', nextService t = some t' → s.participant.Vacant (partTopic actionName t'))
    (h : ∀ t', t' ∈ earlier t ∨ t' = t → OwnsPart actionName s.participant action t') :
    Yields actionName (nextPart env actionName info action t) s := by
  cases t with
  | goal =>
    refine yields_startPart rfl (hvacant .cancel rfl) fun t' ht' => h t' ?_
    simpa [earlier] using ht'
  | cancel =>
    refine yields_startPart rfl (hvacant .result rfl) fun t' ht' => h t' ?_
    simpa [earlier] using ht'
  | result =>
    refine yields_startFeedback fun t' ht' => h t' ?_
    simpa [earlier, or_assoc] using ht'
  | none => cases ht
  | feedback => cases ht
  | status => cases ht

lemma yields_wakePart {v : ServiceDiscovered} {e : Endpoint}
    (hvacant : ∀ t', nextService t = some t' → s.participant.Vacant (partTopic actionName t'))
    (h : OwnsAction actionName s.participant (.waiting (.service info action t v e))) :
    Yields actionName (wakePart env actionName timedOut info action t v e) s := by
  obtain ⟨ht, htopic, honly, hparts⟩ := h
  refine yields_read ?_
  rcases s.participant.lookupReader v.topicRequest.topicName with _ | f
  · cases timedOut
    · exact Yields.pure ⟨ht, htopic, honly, hparts⟩
    · exact Yields.failed
  · refine yields_change (yields_read (yields_nextPart ht hvacant fun t' ht' => ?_))
    rcases ht' with ht' | rfl
    · obtain ⟨hpart, hne⟩ := mem_earlier ht ht'
      refine ((hparts t' ht').congr (partSame_insertOrAssign ht hpart hne _)).ref_congr ?_
      rw [ref_withPart ht, if_neg hne]
    · refine ⟨by rw [ref_withPart ht, if_pos rfl], { v with endpointRequest := some e }, e, ?_,
        rfl, htopic, ?_⟩
      · exact (ServiceMap.find_insertOrAssign ..).trans (if_pos rfl)
      · exact ⟨honly.request, honly.reply, honly.server, honly.topic, honly.only⟩

lemma eraseService_ok (name : Str) (s : State) : ∃ services, (eraseService name).run s =
    .ok () { s with participant := { s.participant with services } } := by
  refine ⟨if (s.participant.services.find name).isSome then s.participant.services.erase name
    else s.participant.services, ?_⟩
  rw [eraseService, onParticipant_run]
  split
  · rfl
  · rfl

lemma startQuery_run (env : Env) (actionName : Str) (s : State) :
    (startQuery env actionName).run s = .ok .failed s ∨ ∃ info services,
      (startQuery env actionName).run s =
        (startPart env actionName info { actionName, protocol := .ros2 } .goal).run
          { s with participant := { s.participant with services } } := by
  unfold startQuery
  rcases env.callbacks.actionQuery with _ | query
  · exact .inl rfl
  · rcases hinfo : query actionName with _ | info
    · left
      simp only [hinfo]
      rfl
    · right
      obtain ⟨services₁, hgoal⟩ := eraseService_ok (partName actionName .goal) s
      obtain ⟨services₂, hcancel⟩ := eraseService_ok (partName actionName .cancel)
        { s with participant := { s.participant with services := services₁ } }
      obtain ⟨services₃, hresult⟩ := eraseService_ok (partName actionName .result)
        { s with participant := { s.participant with services := services₂ } }
      refine ⟨info, services₃, ?_⟩
      simp only [hinfo]
      rw [run_bind_ok hgoal, run_bind_ok hcancel, run_bind_ok hresult]

lemma yields_startQuery (hvacant : s.participant.Vacant (partTopic actionName .goal)) :
    Yields actionName (startQuery env actionName) s := by
  intro y t hrun hy
  rcases startQuery_run env actionName s with h | ⟨info, services, h⟩
  · rw [h] at hrun
    cases hrun
    exact absurd hy Call.not_engaged_failed
  · rw [h] at hrun
    refine yields_startPart (s := { s with participant := { s.participant with services } }) rfl
      hvacant ?_ y t hrun hy
    simp [earlier]

lemma yields_startAction {protocol : Protocol}
    (hvacant : s.participant.Vacant (partTopic actionName .goal)) :
    Yields actionName (startAction env actionName protocol) s := by
  unfold startAction
  split
  · exact Yields.failed
  · refine yields_read ?_
    simp only [id]
    split
    · exact yields_startQuery hvacant
    · next a ha =>
      split
      · exact Yields.failed
      · split
        · exact yields_change (Yields.pure ⟨_, AList.lookup_insert _, rfl⟩)
        · exact yields_change (yields_startQuery hvacant)

/-! ### Calls that are turned away -/

/-- The call fails, and simulates nothing. -/
def Fails (x : M ActionCall) (s : State) : Prop :=
  (∀ y t, x.run s = .ok y t → ¬ y.Engaged) ∧
    (after x s).participant.endpoints = s.participant.endpoints

lemma fails_failed : Fails (return .failed) s := by
  refine ⟨fun y t h => ?_, rfl⟩
  cases h
  exact Call.not_engaged_failed

lemma Fails.bind {α : Type} {x : M α} {f : α → M ActionCall}
    (hx : (after x s).participant.endpoints = s.participant.endpoints)
    (h : ∀ r u, x.run s = .ok r u → Fails (f r) u) : Fails (x >>= f) s := by
  rcases hrun : x.run s with ⟨r, u⟩ | ⟨e, u⟩
  · obtain ⟨hf, hends⟩ := h r u hrun
    rw [after_ok hrun] at hx
    refine ⟨fun y t hy => hf y t ?_, ?_⟩
    · rwa [run_bind_ok hrun] at hy
    · rw [after_bind_ok hrun, hends, hx]
  · rw [after_error hrun] at hx
    refine ⟨fun y t hy => ?_, ?_⟩
    · rw [run_bind_error hrun] at hy
      cases hy
    · rw [after_error (run_bind_error hrun), hx]

lemma Fails.of_run {x x' : M ActionCall} {s' : State} (hrun : x.run s = x'.run s')
    (h : Fails x' s') (hends : s'.participant.endpoints = s.participant.endpoints) : Fails x s := by
  have hafter : after x s = after x' s' := by
    unfold after
    rw [hrun]
  refine ⟨fun y t hy => h.1 y t (hrun ▸ hy), ?_⟩
  rw [hafter, h.2, hends]

lemma fails_startPart (hreader : s.participant.lookupReader (partTopic actionName t) ≠ none)
    (ht : isServicePart t) : Fails (startPart env actionName info action t) s := by
  have hfill := ignores_fillServiceType env (info.service t)
    { serviceName := partName actionName t, protocol := .ros2 } .ros2
  refine Fails.bind (congrArg Participant.endpoints (hfill.after s)) fun r u hrun => ?_
  have hsame := hfill.participant hrun
  rcases r with _ | service
  · exact fails_failed
  · obtain ⟨request, reply, hname, rfl⟩ := fillServiceType_part ht hrun
    obtain ⟨f, hf⟩ := Option.ne_none_iff_exists'.mp hreader
    refine Fails.bind rfl fun r u' hread => ?_
    rw [readParticipant_run] at hread
    injection hread with hread hu
    subst hu
    simp only [ServiceDiscovered.queried, hname, hsame, hf] at hread
    subst hread
    exact fails_failed

lemma fails_startQuery
    (hreader : s.participant.lookupReader (partTopic actionName .goal) ≠ none) :
    Fails (startQuery env actionName) s := by
  rcases startQuery_run env actionName s with h | ⟨info, services, h⟩
  · exact Fails.of_run h fails_failed rfl
  · exact Fails.of_run h (fails_startPart hreader rfl) rfl

/-- All services of the action are there, so that it is served as it is. -/
def Participant.HasServices (p : Participant) (a : ActionDiscovered) : Prop :=
  (p.services.lock a.goal).isSome ∧ (p.services.lock a.result).isSome ∧
    (p.services.lock a.cancel).isSome

/-- A call for an action is refused at once: for its protocol, or as the action is served. -/
def Participant.Refuses (p : Participant) (actionName : Str) (protocol : Protocol) : Prop :=
  protocol ≠ .ros2 ∨ ∃ a, p.actions.lookup actionName = some a ∧ a.enablerAsServer = true

/-- A call for an action fails as its goal service has a reader. -/
def Participant.Blocks (p : Participant) (actionName : Str) : Prop :=
  (∀ a, p.actions.lookup actionName = some a → ¬ p.HasServices a) ∧
    p.lookupReader (partTopic actionName .goal) ≠ none

variable (env) in
lemma startAction_refused {protocol : Protocol} (h : s.participant.Refuses actionName protocol) :
    (startAction env actionName protocol).run s = .ok .failed s := by
  unfold startAction
  split
  · rfl
  · next hprotocol =>
    rcases h with h | ⟨a, ha, hserver⟩
    · exact absurd h hprotocol
    · rw [run_bind_ok (readParticipant_run s id)]
      simp only [id, ha, hserver, if_true]
      rfl

variable (env) in
lemma fails_startAction (protocol : Protocol) (h : s.participant.Blocks actionName) :
    Fails (startAction env actionName protocol) s := by
  obtain ⟨hservices, hreader⟩ := h
  unfold startAction
  split
  · exact fails_failed
  · refine Fails.bind rfl fun p u hread => ?_
    rw [readParticipant_run] at hread
    injection hread with hp hu
    subst hu
    subst hp
    simp only [id]
    split
    · exact fails_startQuery hreader
    · next a ha =>
      split
      · exact fails_failed
      · split
        · next goal result cancel hgoal hresult hcancel =>
          exact absurd ⟨by simp [hgoal], by simp [hresult], by simp [hcancel]⟩ (hservices a ha)
        · refine Fails.bind rfl fun r u hu => fails_startQuery ?_
          cases hu
          exact hreader

end Pieces

/-! ### Care -/

/-- The call waits for the reader of the goal service, and has entered no service yet. -/
def ActionWait.AtGoal : ActionWait → Prop
  | .service _ _ .goal _ _ => True
  | _ => False

/-- The service that is announced when the wait is over. -/
def ActionWait.next : ActionWait → Option ActionType
  | .service _ _ t _ _ => nextService t
  | _ => none

/-- Calls for an action are refused, or blocked by the reader of the goal service while it is
awaited still. Nothing else touches the entry, the services and the endpoints of their request
topics. -/
def actionCare (actionName : Str) : Care ActionWait where
  turnedAway protocol p w := p.Refuses actionName protocol ∨ w.AtGoal ∧ p.Blocks actionName
  vacant _ p := p.Vacant (partTopic actionName .goal)
  vacantNext p w := ∀ t, w.next = some t → p.Vacant (partTopic actionName t)
  leaves p p' := p'.actions.lookup actionName = p.actions.lookup actionName ∧
    ∀ t, isServicePart t → PartSame actionName t p p'

lemma ActionWait.next_cases {w : ActionWait} {t : ActionType} (h : w.next = some t) :
    t = .cancel ∨ t = .result := by
  cases w with
  | service info a t' v e => cases t' <;> simp_all [ActionWait.next, nextService]
  | feedback info a topic => cases h
  | status a topic => cases h

section Actions

variable {actionName : Str} {env : Env} {protocol : Protocol} {s : State} {y : ActionCall}
  {p p' : Participant}

lemma SameAction.refl (a : ActionDiscovered) : SameAction a a := ⟨rfl, rfl, rfl, fun _ => rfl⟩

lemma SameAction.trans {a b c : ActionDiscovered} (h : SameAction a b) (h' : SameAction b c) :
    SameAction a c :=
  ⟨h'.name.trans h.name, h'.protocol.trans h.protocol, h'.server.trans h.server,
    fun t => (h'.ref t).trans (h.ref t)⟩

lemma OwnsAction.congr (h : OwnsAction actionName p y)
    (hends : ∀ t, isServicePart t →
      p'.endpointsOf (partTopic actionName t) = p.endpointsOf (partTopic actionName t))
    (hparts : ∀ a t, isServicePart t → OwnsPart actionName p a t → OwnsPart actionName p' a t)
    (hflag : ∀ a, p.actions.lookup actionName = some a → ∃ a',
      p'.actions.lookup actionName = some a' ∧ a'.enablerAsServer = a.enablerAsServer)
    (hentry : ∀ a, p.actions.lookup actionName = some a →
      (∀ t, isServicePart t → OwnsPart actionName p a t) → ∃ a',
      p'.actions.lookup actionName = some a' ∧ SameAction a a') : OwnsAction actionName p' y := by
  have hall : ∀ a t, OwnsParts actionName p a → t ∈ earlier .feedback →
      OwnsPart actionName p' a t := fun a t h ht => hparts a t (mem_earlier_feedback.mp ht) (h t ht)
  cases y with
  | idle => trivial
  | failed => trivial
  | waiting w =>
    cases w with
    | service info a t v e =>
      obtain ⟨ht, htopic, honly, hearlier⟩ := h
      refine ⟨ht, htopic, honly.congr ?_, fun t' ht' => ?_⟩
      · rw [htopic]
        exact hends t ht
      · exact hparts a t' (mem_earlier ht ht').1 (hearlier t' ht')
    | feedback info a topic => exact fun t => hall a t h
    | status a topic => exact fun t => hall a t h
  | flagged =>
    obtain ⟨a, ha, hserver⟩ := h
    obtain ⟨a', ha', hsame⟩ := hflag a ha
    exact ⟨a', ha', hsame.trans hserver⟩
  | built a =>
    obtain ⟨⟨a', ha', hsame⟩, hserver, hown⟩ := h
    obtain ⟨a'', ha'', hsame'⟩ :=
      hentry a' ha' fun t ht => (hown t ht).ref_congr (hsame.ref t)
    exact ⟨⟨a'', ha'', hsame.trans hsame'⟩, hserver, fun t ht => hparts a t ht (hown t ht)⟩

lemma OwnsAction.left (h : OwnsAction actionName p y) (hp : (actionCare actionName).leaves p p') :
    OwnsAction actionName p' y := by
  obtain ⟨hentry, hparts⟩ := hp
  refine h.congr (fun t ht => (hparts t ht).endpoints) (fun a t ht hown => hown.congr (hparts t ht))
    (fun a ha => ⟨a, hentry.trans ha, rfl⟩) fun a ha _ => ⟨a, hentry.trans ha, .refl a⟩

section Discovery

variable {topic : DdsTopic} {info : RpcInfo} {a : ActionDiscovered}

lemma sameAction_addTopic (t : ActionType) : SameAction a (a.addTopic topic t).2 := by
  cases t <;> exact ⟨rfl, rfl, rfl, fun t => by cases t <;> rfl⟩

lemma sameAction_check (services : ServiceMap) :
    SameAction a (a.checkFullyDiscovered services).2 := by
  unfold ActionDiscovered.checkFullyDiscovered
  split
  · split
    · exact ⟨rfl, rfl, rfl, fun t => by cases t <;> rfl⟩
    · exact ⟨rfl, rfl, rfl, fun t => by cases t <;> rfl⟩
  · exact ⟨rfl, rfl, rfl, fun t => by cases t <;> rfl⟩

lemma flag_enterTopic :
    (p.enterTopic info topic a).2.enablerAsServer = a.enablerAsServer := by
  unfold Participant.enterTopic
  split
  · split
    next discovered p' _ =>
      rcases discovered
      · rfl
      · cases info.actionType <;> rfl
  · exact (sameAction_addTopic info.actionType).server

lemma sameAction_enterTopic (hcomplete : info.serviceType ≠ .none → ∃ v,
    p.services.find info.serviceName = some v ∧ v.requestDiscovered = true ∧
      v.replyDiscovered = true) : SameAction a (p.enterTopic info topic a).2 := by
  unfold Participant.enterTopic
  split
  · next hs =>
    obtain ⟨v, hv, hrequest, hreply⟩ := hcomplete hs
    have hnot : (p.serviceDiscovered info topic).1 = false := by
      have hadd : ∀ ty, (v.addTopic topic ty).1 = false := by
        intro ty
        cases ty <;> simp [ServiceDiscovered.addTopic, hrequest, hreply]
      simp [Participant.serviceDiscovered, hv, hadd]
    rcases hfound : p.serviceDiscovered info topic with ⟨discovered, p'⟩
    rw [hfound] at hnot
    rw [show discovered = false from hnot]
    exact .refl a
  · exact sameAction_addTopic info.actionType

variable (p info topic a) in
lemma enterTopic_actions : (p.enterTopic info topic a).1.actions = p.actions := by
  unfold Participant.enterTopic
  split
  · split
    next discovered p' hfound =>
      have hp' : p' = (p.serviceDiscovered info topic).2 := by rw [hfound]
      subst hp'
      rcases discovered
      · rfl
      · rfl
  · rfl

variable (p info topic) in
lemma lookup_actionDiscovered (name : Str) : ∃ a',
    SameAction (p.enterTopic info topic ((p.actions.lookup info.actionName).getD
      { actionName := info.actionName, protocol := info.protocol })).2 a' ∧
    (p.actionDiscovered info topic).2.actions.lookup name =
      if name = info.actionName then some a' else p.actions.lookup name := by
  unfold Participant.actionDiscovered
  extract_lets a₀
  have hactions := enterTopic_actions p topic info a₀
  generalize p.enterTopic info topic a₀ = entered at hactions ⊢
  obtain ⟨q, a₁⟩ := entered
  have hcheck := sameAction_check (a := a₁) q.services
  dsimp only at hactions ⊢
  generalize a₁.checkFullyDiscovered q.services = checked at hcheck ⊢
  obtain ⟨discovered, a₂⟩ := checked
  refine ⟨if discovered then { a₂ with externalServer := true } else a₂, hcheck.trans ?_, ?_⟩
  · cases discovered
    · exact .refl a₂
    · exact ⟨rfl, rfl, rfl, fun t => by cases t <;> rfl⟩
  · rw [← hactions]
    exact lookup_insert _ _ _ _

lemma lookup_entered (hq : EnteredAs topic p p') {actionName : Str}
    (ha : p.actions.lookup actionName = some a) : ∃ a',
    p'.actions.lookup actionName = some a' ∧ a'.enablerAsServer = a.enablerAsServer ∧
      ((∀ t, isServicePart t → OwnsPart actionName p a t) → SameAction a a') := by
  cases hq with
  | not => exact ⟨a, ha, rfl, fun _ => .refl a⟩
  | service info => exact ⟨a, ha, rfl, fun _ => .refl a⟩
  | action haction =>
    obtain ⟨a', hsame, hlookup⟩ := lookup_actionDiscovered p topic (.ofTopic topic.topicName)
      actionName
    by_cases hname : actionName = (RpcInfo.ofTopic topic.topicName).actionName
    · subst hname
      rw [if_pos rfl] at hlookup
      rw [ha, Option.getD_some] at hsame
      refine ⟨a', hlookup, hsame.server.trans flag_enterTopic, fun hown => ?_⟩
      refine (sameAction_enterTopic fun hservice => ?_).trans hsame
      obtain ⟨hpart, ht⟩ := serviceName_ofTopic haction hservice
      obtain ⟨-, v, e, hv, -, -, honly⟩ := hown _ ht
      exact ⟨v, by rw [hpart, hv], honly.request, honly.reply⟩
    · rw [if_neg hname] at hlookup
      exact ⟨a, hlookup.trans ha, rfl, fun _ => .refl a⟩

end Discovery

lemma OwnsAction.discovered {topic : DdsTopic} (h : OwnsAction actionName s.participant y) :
    OwnsAction actionName (after (createReader env topic) s).participant y := by
  obtain ⟨q, readers, hq, hafter⟩ := entered_createReader topic env s
  rw [hafter]
  have hown : OwnsAction actionName q y := by
    refine h.congr (fun t _ => endpointsOf_entered hq _) (fun a t _ hpart => hpart.entered hq)
      (fun a ha => ?_) fun a ha hall => ?_
    · obtain ⟨a', ha', hflag, -⟩ := lookup_entered hq ha
      exact ⟨a', ha', hflag⟩
    · obtain ⟨a', ha', -, hsame⟩ := lookup_entered hq ha
      exact ⟨a', ha', hsame hall⟩
  -- the readers are not part of what is owned
  exact hown.congr (fun _ _ => rfl) (fun _ _ _ hpart => hpart.congr ⟨rfl, rfl, rfl⟩)
    (fun a ha => ⟨a, ha, rfl⟩) fun a ha _ => ⟨a, ha, .refl a⟩

lemma OwnsAction.refuses (h : OwnsAction actionName p y) (hy : y.answer = true) :
    p.Refuses actionName protocol := by
  cases y with
  | idle => cases hy
  | failed => cases hy
  | waiting w => cases hy
  | flagged => exact .inr h
  | built a =>
    obtain ⟨⟨a', ha', hsame⟩, hserver, -⟩ := h
    exact .inr ⟨a', ha', hsame.server.trans hserver⟩

lemma OwnsAction.atGoal {w : ActionWait} (h : OwnsAction actionName p (.waiting w)) (hw : w.AtGoal)
    (hends : p'.endpoints = p.endpoints) : OwnsAction actionName p' (.waiting w) := by
  cases w with
  | service info a t v e =>
    obtain ⟨ht, htopic, honly, hearlier⟩ := h
    refine ⟨ht, htopic, honly.congr (by simp only [Participant.endpointsOf, hends]), ?_⟩
    cases t with
    | goal => simp [earlier]
    | none => cases hw
    | result => cases hw
    | cancel => cases hw
    | feedback => cases hw
    | status => cases hw
  | feedback info a topic => cases hw
  | status a topic => cases hw

lemma actionCare_suffices (actionName : Str) :
    (actionCare actionName).Suffices (announcingAction actionName) (OwnsAction actionName) where
  start env protocol s y t hvacant hrun hy := yields_startAction hvacant y t hrun hy
  aside env protocol s y hy hown haway := by
    have hrefused : s.participant.Refuses actionName protocol →
        (∀ z t, (startAction env actionName protocol).run s = .ok z t → ¬ z.Engaged) ∧
          OwnsAction actionName (after (startAction env actionName protocol) s).participant y := by
      intro h
      have hrun := startAction_refused env h
      refine ⟨fun z t hz => ?_, by rw [after_ok hrun]; exact hown⟩
      rw [hrun] at hz
      cases hz
      exact Call.not_engaged_failed
    rcases hy with ⟨w, rfl⟩ | hanswer
    · rcases haway w rfl with h | ⟨hgoal, hblocks⟩
      · exact hrefused h
      · obtain ⟨hfails, hends⟩ := fails_startAction env protocol hblocks
        exact ⟨hfails, hown.atGoal hgoal hends⟩
    · exact hrefused (hown.refuses hanswer)
  wake env timedOut s w y t hvacant hown hrun hy := by
    have hyields : Yields actionName (wakeAction env actionName timedOut w) s := by
      cases w with
      | service info a t v e => exact yields_wakePart hvacant hown
      | feedback info a topic => exact yields_wakeTopic hown (yields_withFeedback topic hown)
      | status a topic => exact yields_wakeTopic hown (yields_withStatus topic hown)
    exact hyields y t hrun hy
  discovered env topic s y hown := hown.discovered
  leaves p p' y hleaves hown := hown.left hleaves

end Actions

/-! ### One winner -/

/-- One call at most has returned true. The entry is the action it has built, whose services are
there with the only endpoints for their request topics; or one there was that the enabler now
serves. -/
structure ActionWinner {κ : Type} (actionName : Str)
    (c : Callers κ ActionWait ActionDiscovered) : Prop where
  unique : ∀ k k', (c.thread k).answer = true → (c.thread k').answer = true → k = k'
  built : ∀ k a, c.thread k = .built a →
    (∃ a', c.shared.participant.actions.lookup actionName = some a' ∧ SameAction a a') ∧
      ∀ t, isServicePart t → ∃ v e, c.shared.participant.services.lock (a.ref t) = some v ∧
        v.endpointRequest = some e ∧
        c.shared.participant.endpointsOf (partTopic actionName t) = [e]
  flagged : ∀ k, c.thread k = .flagged → ∃ a,
    c.shared.participant.actions.lookup actionName = some a ∧ a.enablerAsServer = true

lemma actionWinner_of_exclusively {κ : Type} {actionName : Str}
    {c : Callers κ ActionWait ActionDiscovered} (h : Exclusively (OwnsAction actionName) c) :
    ActionWinner actionName c where
  unique k k' hk hk' := h.unique k k' (.inr hk) (.inr hk')
  built k a hk := by
    have hown := h.owns k (hk ▸ Call.engaged_built a)
    rw [hk] at hown
    obtain ⟨hentry, -, hparts⟩ := hown
    refine ⟨hentry, fun t ht => ?_⟩
    obtain ⟨href, v, e, hv, he, htopic, honly⟩ := hparts t ht
    refine ⟨v, e, ?_, he, htopic ▸ honly.only⟩
    rw [href, ServiceMap.lock_weak, hv]
  flagged k hk := by
    have hown := h.owns k (hk ▸ Call.engaged_flagged)
    rw [hk] at hown
    exact hown

/-- **Concurrent announcements have one winner**, as long as no call begins while another waits,
unless it is turned away, and every call that finds a request topic without a reader finds it
without an endpoint. -/
theorem one_winner {κ : Type} [DecidableEq κ] (name : Str) :
    (∀ (c : Callers κ ServiceWait ServiceDiscovered) (w : List (AnnounceOp κ)),
      (∀ k, c.thread k = .idle) →
      Along (Callers.step (announcingService name)) (serviceCare name).Taken c w →
      ServiceWinner name (run (Callers.step (announcingService name)) c w)) ∧
    ∀ (c : Callers κ ActionWait ActionDiscovered) (w : List (AnnounceOp κ)),
      (∀ k, c.thread k = .idle) →
      Along (Callers.step (announcingAction name)) (actionCare name).Taken c w →
      ActionWinner name (run (Callers.step (announcingAction name)) c w) :=
  ⟨fun _ _ hidle hw => serviceWinner_of_exclusively
      ((serviceCare_suffices name).exclusive_run hidle hw),
    fun _ _ hidle hw => actionWinner_of_exclusively
      ((actionCare_suffices name).exclusive_run hidle hw)⟩

/-- Two clients that have not called yet, of an enabler that has not been asked for anything. -/
def twoClients {ω β : Type} : Callers Bool ω β := ⟨{}, fun _ => .idle⟩

/-- The reader for an endpoint that the enabler has simulated. -/
def ownReader (topicName : Str) : AnnounceOp Bool :=
  .createReader .silent { topicName, discoverer := Env.silent.id }

open ServiceServers (answeringEnv addTwoInts)
open ActionServers (actionEnv)

def fibonacciAction : Str := "fibonacci/_action/".toList

/-- The second client calls when the reader is there. -/
def serviceTurns : List (AnnounceOp Bool) :=
  [.start false answeringEnv .ros2, ownReader "rq/add_two_intsRequest".toList,
    .start true answeringEnv .ros2, .wake false answeringEnv false]

/-- The second client calls before the reader is there. -/
def serviceRace : List (AnnounceOp Bool) :=
  [.start false answeringEnv .ros2, .start true answeringEnv .ros2,
    ownReader "rq/add_two_intsRequest".toList, .wake false answeringEnv false,
    .wake true answeringEnv false]

/-- The readers are created in the order in which they are awaited, by the clients `ks`. -/
def actionReaders (ks : List Bool) : List (AnnounceOp Bool) :=
  ["rq/fibonacci/_action/send_goalRequest", "rq/fibonacci/_action/cancel_goalRequest",
    "rq/fibonacci/_action/get_resultRequest", "rt/fibonacci/_action/feedback",
    "rt/fibonacci/_action/status"].flatMap fun topicName =>
      ownReader topicName.toList :: ks.map fun k => .wake k actionEnv false

def actionTurns : List (AnnounceOp Bool) := .start false actionEnv .ros2 :: actionReaders [false]

def actionRace : List (AnnounceOp Bool) :=
  .start false actionEnv .ros2 :: .start true actionEnv .ros2 :: actionReaders [false, true]

/-- The first client wins. -/
theorem one_winner_turns :
    (ServiceWinner addTwoInts
        (run (Callers.step (announcingService addTwoInts)) twoClients serviceTurns) ∧
      ActionWinner fibonacciAction
        (run (Callers.step (announcingAction fibonacciAction)) twoClients actionTurns)) ∧
      ((run (Callers.step (announcingService addTwoInts)) twoClients serviceTurns).thread
        false).answer = true ∧
      ((run (Callers.step (announcingAction fibonacciAction)) twoClients actionTurns).thread
        false).answer = true := by
  refine ⟨⟨(one_winner addTwoInts).1 _ _ (fun _ => rfl)
      ⟨⟨?_, ?_⟩, trivial, ⟨?_, ?_⟩, fun _ _ => trivial, trivial⟩,
    (one_winner fibonacciAction).2 _ _ (fun _ => rfl)
      ⟨⟨?_, ?_⟩, trivial, ?_, trivial, ?_, trivial, ?_, trivial, ?_, trivial, ?_, trivial⟩⟩,
    by decide +kernel, by decide +kernel⟩
  · intro k w h
    cases h
  · exact fun _ _ _ _ _ => rfl
  · intro k w _
    change ∀ topicName, requestTopic .ros2 addTwoInts = some topicName → _
    intro topicName htopic
    cases htopic
    decide +kernel
  · intro h
    exact absurd rfl (h false _)
  · intro k w h
    cases h
  · exact fun _ _ => rfl
  all_goals
    intro w _ t ht
    rcases ActionWait.next_cases ht with rfl | rfl <;> decide +kernel

/-- Both clients are told that they have announced the name. -/
theorem two_winners :
    ¬ ServiceWinner addTwoInts
        (run (Callers.step (announcingService addTwoInts)) twoClients serviceRace) ∧
      ¬ ActionWinner fibonacciAction
        (run (Callers.step (announcingAction fibonacciAction)) twoClients actionRace) := by
  refine ⟨fun h => ?_, fun h => ?_⟩
  · have heq := h.unique false true (by decide +kernel) (by decide +kernel)
    cases heq
  · have heq := h.unique false true (by decide +kernel) (by decide +kernel)
    cases heq

end DdsEnabler
