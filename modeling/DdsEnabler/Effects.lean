import DdsEnabler.AddData

/-!
What an operation can do to the map of goals and to the counter of request identifiers.

The trace tells all of it: the entry of a goal is what the events replay on the entry there
was, identifiers are drawn one after the other, and no identifier is stored that was not drawn
before. `Evolves` states this of a step, and every operation of the requests, the writer and
the received samples is shown to take such steps only.
-/

namespace DdsEnabler

open Exec

/-! ### Events -/

/-- What an event says of the entry of a goal. -/
def Event.onEntry (u : UUID) (i : Option ActionRequestInfo) : Event → Option ActionRequestInfo
  | .storedRequest actionName v requestId actionType protocol now =>
    if u = v then Handler.storeEntry actionName requestId actionType protocol now i else i
  | .resultSet v result => if u = v then i.map fun i => (i.setResult result).2 else i
  | .erasedAction v reason => if u = v then i.bind (Handler.eraseFlag reason) else i
  | _ => i

/-- The entry of a goal once the events have happened. -/
def replay (u : UUID) (es : List Event) (i : Option ActionRequestInfo) :
    Option ActionRequestInfo := es.foldl (Event.onEntry u) i

@[simp] lemma replay_nil (u : UUID) (i : Option ActionRequestInfo) : replay u [] i = i := rfl
@[simp] lemma replay_cons (u : UUID) (e : Event) (es : List Event)
    (i : Option ActionRequestInfo) : replay u (e :: es) i = replay u es (e.onEntry u i) := rfl
@[simp] lemma replay_append (u : UUID) (es es' : List Event) (i : Option ActionRequestInfo) :
    replay u (es ++ es') i = replay u es' (replay u es i) := by
  simp [replay]

def Event.drawnId : Event → Option Nat
  | .newRequestId id => some id
  | _ => none

def drawnIds (es : List Event) : List Nat := es.filterMap Event.drawnId

/-- The identifier stored for a goal or a result; the map has no place for others. -/
def Event.storedId : Event → Option Nat
  | .storedRequest _ _ id .goal _ _ => some id
  | .storedRequest _ _ id .result _ _ => some id
  | _ => none

def storedIds (es : List Event) : List Nat := es.filterMap Event.storedId

/-- The identifier of a received sample: it is written into the sample, notified to the user as
that of a request, or replied to by the enabler itself. -/
def Event.sampleId : Event → Option Nat
  | .sentSequenceNumber id => some id
  | .serviceRequestNotification _ _ id _ => some id
  | .actionCancelRequestNotification _ _ _ id _ => some id
  | .sendActionSendGoalReply _ id _ => some id
  | .sendActionGetResultReply _ _ _ id _ => some id
  | _ => none

@[simp] lemma drawnIds_append (es es' : List Event) :
    drawnIds (es ++ es') = drawnIds es ++ drawnIds es' := List.filterMap_append ..
@[simp] lemma storedIds_append (es es' : List Event) :
    storedIds (es ++ es') = storedIds es ++ storedIds es' := List.filterMap_append ..

/-- The identifiers count up from the counter `c`, which ends at `c'`. -/
def CountsUp : Nat → List Nat → Nat → Prop
  | c, [], c' => c' = c
  | c, id :: l, c' => id = (c + 1) % 2 ^ 64 ∧ CountsUp id l c'

lemma CountsUp.append {c c' c'' : Nat} {l l' : List Nat} (h : CountsUp c l c')
    (h' : CountsUp c' l' c'') : CountsUp c (l ++ l') c'' := by
  induction l generalizing c with
  | nil =>
    have hc : c' = c := h
    exact hc ▸ h'
  | cons id l ih => exact ⟨h.1, ih h.2⟩

/-! ### Steps -/

/-- The events `new` tell all that a step does to the map of goals and to the counter. -/
structure Effect (new : List Event) (s t : State) : Prop where
  trace : t.trace = s.trace ++ new
  entry : ∀ u, t.handler.entry u = replay u new (s.handler.entry u)
  counts : CountsUp s.handler.requestsId (drawnIds new) t.handler.requestsId
  participant : t.participant = s.participant

/-- A step that stores identifiers it has drawn only. Its events are about the received sample
with the identifier `o` at most, and about none for `o = none`. -/
structure Step (o : Option Nat) (new : List Event) (s t : State) : Prop
    extends Effect new s t where
  stored : (storedIds new).Sublist (drawnIds new)
  sample : ∀ e ∈ new, ∀ id, e.sampleId = some id → o = some id

def Evolves (o : Option Nat) (s t : State) : Prop := ∃ new, Step o new s t

lemma Effect.refl (s : State) : Effect [] s s := ⟨by simp, fun _ => rfl, rfl, rfl⟩

lemma Effect.trans {new new' : List Event} {s t r : State} (h : Effect new s t)
    (h' : Effect new' t r) : Effect (new ++ new') s r where
  trace := by rw [h'.trace, h.trace, List.append_assoc]
  entry u := by rw [h'.entry, h.entry, replay_append]
  counts := by
    rw [drawnIds_append]
    exact h.counts.append h'.counts
  participant := h'.participant.trans h.participant

lemma Step.refl (o : Option Nat) (s : State) : Step o [] s s :=
  ⟨Effect.refl s, .refl _, by simp⟩

lemma Step.trans {o : Option Nat} {new new' : List Event} {s t r : State}
    (h : Step o new s t) (h' : Step o new' t r) : Step o (new ++ new') s r where
  toEffect := h.toEffect.trans h'.toEffect
  stored := by
    rw [drawnIds_append, storedIds_append]
    exact h.stored.append h'.stored
  sample e he := by
    rcases List.mem_append.mp he with he | he
    · exact h.sample e he
    · exact h'.sample e he

instance (o : Option Nat) : IsPreorder State (Evolves o) where
  refl s := ⟨[], Step.refl o s⟩
  trans := by
    rintro s t r ⟨new, h⟩ ⟨new', h'⟩
    exact ⟨new ++ new', h.trans h'⟩

lemma Evolves.mono {o : Option Nat} {s t : State} (h : Evolves none s t) : Evolves o s t := by
  obtain ⟨new, h⟩ := h
  refine ⟨new, h.toEffect, h.stored, ?_⟩
  intro e he id hid
  cases h.sample e he id hid

/-- The events that say nothing of the map of goals and of the counter. -/
def Event.isPlain : Event → Bool
  | .newRequestId _ | .storedRequest .. | .resultSet .. => false
  | .erasedAction .. => false
  | _ => true

/-- The events that tell the user of a received sample. -/
def Event.isNotice : Event → Bool
  | .dataNotification .. | .serviceRequestNotification .. | .serviceReplyNotification .. => true
  | .actionGoalRequestNotification .. | .actionCancelRequestNotification .. => true
  | .actionResultNotification .. | .actionFeedbackNotification .. => true
  | .actionStatusNotification .. => true
  | _ => false

lemma isPlain_of_isNotice {e : Event} (h : e.isNotice) : e.isPlain := by
  cases e <;> first | rfl | cases h

variable {o : Option Nat}

lemma evolves_log {e : Event} (he : e.isPlain) (ho : ∀ id, e.sampleId = some id → o = some id)
    (s : State) : Evolves o s (s.log [e]) := by
  refine ⟨[e], ⟨rfl, ?_, ?_, rfl⟩, ?_, by simpa using ho⟩
  · intro u
    cases e <;> first | rfl | cases he
  · cases e <;> first | rfl | cases he
  · cases e <;> first | exact List.Sublist.refl _ | cases he

lemma evolves_handler {s : State} {h : Handler}
    (hmap : h.actionRequestIdToUuid = s.handler.actionRequestIdToUuid)
    (hid : h.requestsId = s.handler.requestsId) : Evolves o s { s with handler := h } := by
  refine ⟨[], ⟨by simp, ?_, hid, rfl⟩, .refl _, by simp⟩
  intro u
  simp [Handler.entry, hmap]

lemma step_draw (s : State) : Step o [.newRequestId s.handler.nextRequestId.1] s s.draw :=
  ⟨⟨rfl, fun _ => rfl, ⟨rfl, rfl⟩, rfl⟩, List.nil_sublist _, by simp [Event.sampleId]⟩

lemma step_erase (u : UUID) (reason : ActionEraseReason) (s : State) :
    Step o [.erasedAction u reason] s
      ({ s with handler := s.handler.eraseActionUUID u reason }.log [.erasedAction u reason]) := by
  refine ⟨⟨rfl, ?_, Handler.requestsId_eraseActionUUID .., rfl⟩, .refl _,
    by simp [Event.sampleId]⟩
  intro v
  change (s.handler.eraseActionUUID u reason).entry v = _
  rw [Handler.entry_eraseActionUUID]
  by_cases hv : v = u
  · simp [Event.onEntry, hv]
  · simp [Event.onEntry, hv]

lemma step_setResult (u : UUID) (result : JsonText) (s : State) :
    Step o [.resultSet u result] s
      ({ s with handler := (s.handler.setResult u result).2 }.log [.resultSet u result]) := by
  refine ⟨⟨rfl, ?_, Handler.requestsId_setResult .., rfl⟩, .refl _, by simp [Event.sampleId]⟩
  intro v
  change (s.handler.setResult u result).2.entry v = _
  rw [Handler.entry_setResult]
  by_cases hv : v = u
  · simp [Event.onEntry, hv]
  · simp [Event.onEntry, hv]

lemma effect_store (env : Env) (actionName : Str) (u : UUID) (id : Nat)
    (actionType : ActionType) (protocol : Protocol) (s : State) :
    ∃ new, Effect new s (after (storeActionRequest env actionName u id actionType protocol) s) ∧
      (storedIds new).Sublist [id] ∧ drawnIds new = [] ∧ ∀ e ∈ new, e.sampleId = none := by
  rcases hb : (s.handler.storeActionRequest actionName u id actionType protocol env.now).1
  · rw [after_ok (storeActionRequest_run_false s env hb)]
    exact ⟨[], Effect.refl s, List.nil_sublist _, rfl, by simp⟩
  · rw [after_ok (storeActionRequest_run_true s env hb)]
    refine ⟨_, ⟨rfl, ?_, ?_, rfl⟩, ?_, rfl, by simp [Event.sampleId]⟩
    · intro v
      change (s.handler.storeActionRequest actionName u id actionType protocol env.now).2.entry
        v = _
      rw [Handler.entry_storeActionRequest]
      by_cases hv : v = u
      · simp [Event.onEntry, hv]
      · simp [Event.onEntry, hv]
    · exact Handler.requestsId_storeActionRequest ..
    · cases actionType
      case goal => exact .refl _
      case result => exact .refl _
      all_goals exact List.nil_sublist _

lemma Step.store {new : List Event} {s t : State} (h : Step o new s t)
    (hnew : storedIds new = []) {id : Nat} (hid : id ∈ drawnIds new) (env : Env)
    (actionName : Str) (u : UUID) (actionType : ActionType) (protocol : Protocol) :
    ∃ new', Step o (new ++ new') s
      (after (storeActionRequest env actionName u id actionType protocol) t) := by
  obtain ⟨new', heff, hstored, hdrawn, hsample⟩ :=
    effect_store env actionName u id actionType protocol t
  refine ⟨new', h.toEffect.trans heff, ?_, ?_⟩
  · rw [drawnIds_append, hdrawn, List.append_nil, storedIds_append, hnew, List.nil_append]
    exact hstored.trans (List.singleton_sublist.mpr hid)
  · intro e he n hn
    rcases List.mem_append.mp he with he | he
    · exact h.sample e he n hn
    · rw [hsample e he] at hn
      cases hn

/-! ### Requests and replies -/

/-- A relation that admits what a sample does that the enabler does not answer: it tells the
user, with no other identifier than `o`, and ends goals. -/
structure Admits (o : Option Nat) (R : State → State → Prop) : Prop where
  notice : ∀ {e : Event}, e.isNotice → (∀ id, e.sampleId = some id → o = some id) →
    ∀ s, R s (s.log [e])
  erase : ∀ u reason, Keeps R (eraseActionUUID u reason)

section Operations

variable (env : Env)

lemma keeps_emit {e : Event} (he : e.isPlain) (ho : ∀ id, e.sampleId = some id → o = some id) :
    Keeps (Evolves o) (emit e) := Keeps.emit (evolves_log he ho)

lemma keeps_draw : Keeps (Evolves o) getNewRequestId :=
  fun s => ⟨_, step_draw s⟩

lemma keeps_erase (u : UUID) (reason : ActionEraseReason) :
    Keeps (Evolves o) (eraseActionUUID u reason) :=
  fun s => ⟨_, step_erase u reason s⟩

lemma keeps_publishRpc (topicName : Str) (json : JsonText) (requestId : Nat) :
    Keeps (Evolves o) (publishRpc env topicName json requestId) := by
  intro s
  rw [after_ok (publishRpc_run ..)]
  split
  · exact evolves_log rfl (by simp [Event.sampleId]) s
  · exact refl_of _ s

/-- A request stores nothing, and what it is sent under it has drawn. -/
lemma sendServiceRequest_step (serviceName : Str) (json : JsonText) (protocol : Protocol)
    (s : State) :
    ∃ r t new, (sendServiceRequest env serviceName json protocol).run s = .ok r t ∧
      Step o new s t ∧ storedIds new = [] ∧ (r.1 = true → r.2 ∈ drawnIds new) := by
  rw [sendServiceRequest_run]
  rcases requestTopic protocol serviceName with _ | topicName
  · exact ⟨_, s, [], rfl, Step.refl o s, rfl, by simp⟩
  · have hdraw : Step o [.newRequestId s.handler.nextRequestId.1] s s.draw := step_draw s
    by_cases h : s.draw.rpcPublishable env topicName json
    · obtain ⟨new, hpub⟩ : Evolves o s.draw
          (s.draw.log [.publishedRpc topicName json s.handler.nextRequestId.1]) :=
        evolves_log rfl (by simp [Event.sampleId]) _
      have hnew : new = [.publishedRpc topicName json s.handler.nextRequestId.1] :=
        (List.append_cancel_left hpub.trace).symm
      subst hnew
      exact ⟨_, _, _, if_pos h, hdraw.trans hpub, rfl, fun _ => List.mem_cons_self⟩
    · exact ⟨_, _, _, if_neg h, hdraw, rfl, by simp⟩

lemma keeps_sendServiceRequest (serviceName : Str) (json : JsonText) (protocol : Protocol) :
    Keeps (Evolves o) (sendServiceRequest env serviceName json protocol) := by
  intro s
  obtain ⟨r, t, new, h, hstep, -⟩ := sendServiceRequest_step env serviceName json protocol s
  rw [after_ok h]
  exact ⟨new, hstep⟩

lemma keeps_sendServiceReply (serviceName : Str) (json : JsonText) (requestId : Nat) :
    Keeps (Evolves o) (sendServiceReply env serviceName json requestId) := by
  unfold sendServiceReply
  refine (Keeps.readParticipant _).bind fun p => ?_
  split
  · exact Keeps.pure _
  · exact keeps_publishRpc env _ json requestId

lemma keeps_cancelActionGoal (actionName : Str) (goalId : UUID) (timestamp : Int) :
    Keeps (Evolves o) (cancelActionGoal env actionName goalId timestamp) := by
  unfold cancelActionGoal
  refine (Keeps.readHandler _).bind fun active => Keeps.ite (Keeps.pure _) ?_
  refine (Keeps.readHandler _).bind fun protocol => ?_
  exact (keeps_sendServiceRequest env _ _ protocol).bind fun r => Keeps.pure _

lemma keeps_sendActionGetResultRequest (actionName : Str) (u : UUID) :
    Keeps (Evolves o) (sendActionGetResultRequest env actionName u) := by
  intro s
  unfold sendActionGetResultRequest
  rw [after_bind_ok (readHandler_run s _)]
  obtain ⟨⟨sent, id⟩, t, new, h, hstep, hnew, hid⟩ := sendServiceRequest_step env
    (actionName ++ actionResultSuffix) (.doc (RpcUtils.createResultRequestMsg u))
    (s.handler.getActionProtocol actionName u) s
  rw [after_bind_ok h]
  rcases sent
  · exact ⟨new, hstep⟩
  · -- the identifier drawn is stored, or else the goal is cancelled
    obtain ⟨new', hstore'⟩ := hstep.store hnew (hid rfl) env actionName u .result .ros2
    have hstore : Evolves o s _ := ⟨_, hstore'⟩
    refine after_bind (fun e t' h' => after_error h' ▸ hstore) fun b t' h' => ?_
    refine trans_of _ (after_ok h' ▸ hstore) (Keeps.ite (Keeps.pure _) ?_ t')
    exact (keeps_cancelActionGoal env actionName u 0).discard.bind fun _ => Keeps.pure _

lemma keeps_getResultRequestCallback (actionName : Str) (u : UUID) :
    Keeps (Evolves o) (getResultRequestCallback env actionName u) := by
  unfold getResultRequestCallback
  refine (keeps_sendActionGetResultRequest env actionName u).bind fun sent => ?_
  have hemit : Keeps (Evolves o) (do
      emit (.sendActionGetResultRequest actionName u sent)
      return sent) :=
    (keeps_emit rfl (by simp [Event.sampleId])).bind fun _ => Keeps.pure _
  refine Keeps.ite ((keeps_cancelActionGoal env actionName u 0).discard.bind fun _ => hemit) hemit

lemma keeps_sendGoalReplyCallback (actionName : Str) (requestId : Nat) (accepted : Bool) :
    Keeps (Evolves (some requestId)) (sendGoalReplyCallback env actionName requestId accepted) := by
  unfold sendGoalReplyCallback sendActionSendGoalReply
  refine (keeps_sendServiceReply env _ _ _).discard.bind fun _ => keeps_emit rfl ?_
  simp [Event.sampleId]

lemma keeps_sendActionGetResultReply (actionName : Str) (u : UUID) (json : JsonText)
    (requestId : Nat) :
    Keeps (Evolves o) (sendActionGetResultReply env actionName u json requestId) := by
  unfold sendActionGetResultReply
  refine (keeps_sendServiceReply env _ _ _).bind fun sent => Keeps.ite ?_ (Keeps.pure _)
  exact (keeps_erase u .forced).bind fun _ => Keeps.pure _

lemma keeps_getResultReplyCallback (actionName : Str) (u : UUID) (json : JsonText)
    (requestId : Nat) :
    Keeps (Evolves (some requestId))
      (getResultReplyCallback env actionName u json requestId) := by
  unfold getResultReplyCallback
  refine (keeps_sendActionGetResultReply env _ _ _ _).bind fun sent => ?_
  exact (keeps_emit rfl (by simp [Event.sampleId])).bind fun _ => Keeps.pure _

lemma evolves_handleActionResult (actionName : Str) (u : UUID) (result : JsonText) (s : State) :
    ∃ o, Evolves o s (after (handleActionResult env actionName u result) s) := by
  unfold handleActionResult
  rw [after_bind_ok (readHandler_run s _)]
  rcases s.handler.entry u with _ | i
  · exact ⟨none, refl_of _ s⟩
  · refine ⟨some i.resultRequestId, Keeps.ite (Keeps.pure _) (Keeps.ite ?_ ?_) s⟩
    · exact keeps_getResultReplyCallback env actionName u result _
    · exact fun s => ⟨_, step_setResult u result s⟩

/-! ### The writer -/

section Writer

variable {R : State → State → Prop} [IsPreorder State R] (hR : Admits o R) (msg : Message)
  (dynType : DynType)

include hR

lemma keeps_notice {b : Bool} {e : Event} (he : e.isNotice)
    (ho : ∀ id, e.sampleId = some id → o = some id) : Keeps R (notify b e) :=
  Keeps.notify (hR.notice he ho)

lemma keeps_writeData : Keeps R (writeData env msg dynType) := by
  unfold writeData
  split
  · exact keeps_notice hR rfl (by simp [Event.sampleId])
  · exact Keeps.pure _

lemma keeps_writeServiceReplyNotification (requestId : Nat) (serviceName : Str) :
    Keeps R (writeServiceReplyNotification env msg dynType requestId serviceName) := by
  unfold writeServiceReplyNotification
  split
  · exact keeps_notice hR rfl (by simp [Event.sampleId])
  · exact Keeps.pure _

lemma keeps_writeActionResultNotification (u : UUID) (actionName : Str) :
    Keeps R (writeActionResultNotification env msg dynType u actionName) := by
  unfold writeActionResultNotification
  split
  · exact keeps_notice hR rfl (by simp [Event.sampleId])
  · exact Keeps.pure _

lemma keeps_writeActionFeedbackNotification (actionName : Str) :
    Keeps R (writeActionFeedbackNotification env msg dynType actionName) := by
  unfold writeActionFeedbackNotification
  split
  · refine (Keeps.lift _).bind fun r => ?_
    split
    · exact Keeps.emit (hR.notice rfl (by simp [Event.sampleId]))
    · exact Keeps.pure _
  · exact Keeps.pure _

lemma keeps_notifyStatus (actionName : Str) (u : UUID) (code : StatusCode) (message : String) :
    Keeps R (notifyStatus env msg actionName u code message) :=
  keeps_notice hR rfl (by simp [Event.sampleId])

lemma keeps_writeCancelledGoals (actionName : Str) (status : StatusCode × String) :
    ∀ l, Keeps R (writeCancelledGoals env msg actionName status l)
  | [] => Keeps.pure _
  | goal :: l => by
    unfold writeCancelledGoals
    refine (Keeps.lift _).bind fun r => ?_
    split
    · exact Keeps.pure _
    · refine (Keeps.readHandler _).bind fun active => ?_
      have ih := keeps_writeCancelledGoals actionName status l
      exact Keeps.ite ((keeps_notifyStatus env hR msg _ _ _ _).bind fun _ => ih) ih

lemma keeps_writeActionCancelReplyNotification (actionName : Str) :
    Keeps R (writeActionCancelReplyNotification env msg dynType actionName) := by
  unfold writeActionCancelReplyNotification
  split
  · exact Keeps.pure _
  · refine (Keeps.lift _).bind fun code => ?_
    split
    · exact Keeps.pure _
    · refine (Keeps.lift _).bind fun goals => ?_
      split
      · exact Keeps.pure _
      · exact keeps_writeCancelledGoals env hR msg actionName _ _

lemma keeps_writeStatusList (actionName : Str) :
    ∀ l, Keeps R (writeStatusList env msg actionName l)
  | [] => Keeps.pure _
  | status :: l => by
    have ih := keeps_writeStatusList actionName l
    unfold writeStatusList
    refine (Keeps.lift _).bind fun r => ?_
    split
    · exact Keeps.pure _
    · refine (Keeps.readHandler _).bind fun active => Keeps.ite ?_ ih
      refine (Keeps.lift _).bind fun code => ?_
      split
      · exact Keeps.pure _
      · have hnotify := fun u c m => (keeps_notifyStatus env hR msg actionName u c m).bind
          fun _ => ih
        exact Keeps.ite ((hR.erase _ _).bind fun _ => hnotify _ _ _) (hnotify _ _ _)

lemma keeps_writeActionStatusNotification (actionName : Str) :
    Keeps R (writeActionStatusNotification env msg dynType actionName) := by
  unfold writeActionStatusNotification
  split
  · exact Keeps.pure _
  · refine (Keeps.lift _).bind fun list => ?_
    split
    · exact Keeps.pure _
    · exact keeps_writeStatusList env hR msg actionName _

end Writer

section Requests

variable {R : State → State → Prop} [IsPreorder State R] {requestId : Nat}
  (hR : Admits (some requestId) R) (msg : Message) (dynType : DynType)

include hR

lemma keeps_writeServiceRequestNotification (serviceName : Str) :
    Keeps R (writeServiceRequestNotification env msg dynType requestId serviceName) := by
  unfold writeServiceRequestNotification
  split
  · exact keeps_notice hR rfl (by simp [Event.sampleId])
  · exact Keeps.pure _

lemma keeps_writeCancelRequest (actionName : Str) (json : Json) :
    Keeps R (writeCancelRequest env msg requestId actionName json) := by
  unfold writeCancelRequest
  refine Keeps.ite ((Keeps.lift _).bind fun r => ?_) (Keeps.pure _)
  split
  · exact Keeps.pure _
  · exact Keeps.emit (hR.notice rfl (by simp [Event.sampleId]))

end Requests

lemma admits_evolves : Admits o (Evolves o) where
  notice he := evolves_log (isPlain_of_isNotice he)
  erase u reason s := ⟨_, step_erase u reason s⟩

variable (msg : Message) (dynType : DynType)

lemma keeps_writeActionGoalReplyNotification (u : UUID) (actionName : Str) :
    Keeps (Evolves o) (writeActionGoalReplyNotification env msg dynType u actionName) := by
  unfold writeActionGoalReplyNotification
  split
  · exact Keeps.pure _
  · refine (Keeps.lift _).bind fun accepted => ?_
    refine (keeps_notifyStatus env admits_evolves msg _ _ _ _).bind fun _ =>
      Keeps.ite ?_ (Keeps.pure _)
    refine (keeps_getResultRequestCallback env actionName u).bind fun sent => ?_
    exact Keeps.ite (keeps_notifyStatus env admits_evolves msg _ _ _ _) (Keeps.pure _)

lemma keeps_writeActionRequestNotification (requestId : Nat) (actionName : Str)
    (actionType : ActionType) :
    Keeps (Evolves (some requestId))
      (writeActionRequestNotification env msg dynType requestId actionName actionType) := by
  unfold writeActionRequestNotification writeGoalRequest
  split
  · exact Keeps.pure _
  · split
    · split
      · refine (Keeps.lift _).bind fun r => ?_
        split
        · exact Keeps.pure _
        · refine (Keeps.emit (evolves_log rfl (by simp [Event.sampleId]))).bind fun _ => ?_
          exact keeps_sendGoalReplyCallback env actionName requestId _
      · exact keeps_sendGoalReplyCallback env actionName requestId _
    · exact keeps_writeCancelRequest env admits_evolves msg actionName _
    · exact Keeps.pure _

/-! ### Received samples -/

/-- The events of a stamp. -/
def stampEvents (id : Nat) : List Event := [.newRequestId id, .sentSequenceNumber id]

/-- A step of a sample that the identifier `id`, just drawn, was written into. -/
def Stamped (id : Nat) (s t : State) : Prop :=
  ∃ new, Step (some id) new s t ∧ stampEvents id ⊆ new

lemma Stamped.trans {id : Nat} {s t r : State} (h : Stamped id s t)
    (h' : Evolves (some id) t r) : Stamped id s r := by
  obtain ⟨new, hstep, hmem⟩ := h
  obtain ⟨new', hstep'⟩ := h'
  exact ⟨new ++ new', hstep.trans hstep', List.Subset.trans hmem (List.subset_append_left _ _)⟩

/-- What a received sample can do: all that it does carries the one identifier written into
it, or it is not stamped and nobody is told of an identifier. -/
def Received (s t : State) : Prop := Evolves none s t ∨ ∃ id, Stamped id s t

lemma Received.of_evolves {s t r : State} (h : Evolves none s t) (h' : Received t r) :
    Received s r := by
  rcases h' with h' | ⟨id, new', hstep', hmem⟩
  · exact .inl (trans_of _ h h')
  · obtain ⟨new, hstep⟩ := h.mono (o := some id)
    exact .inr ⟨id, new ++ new', hstep.trans hstep',
      List.Subset.trans hmem (List.subset_append_right _ _)⟩

variable (data : Sample)

lemma step_stamp (s : State) :
    Step (some s.handler.nextRequestId.1) (stampEvents s.handler.nextRequestId.1) s
      (s.draw.log [.sentSequenceNumber s.handler.nextRequestId.1]) :=
  ⟨⟨by simp [stampEvents], fun _ => rfl, ⟨rfl, rfl⟩, rfl⟩, List.nil_sublist _,
    by simp [stampEvents, Event.sampleId]⟩

lemma stampRequest_run (s : State) :
    (stampRequest data).run s =
      if data.isRpc then .ok s.handler.nextRequestId.1
        (s.draw.log [.sentSequenceNumber s.handler.nextRequestId.1])
      else .error .badCast s.draw := by
  unfold stampRequest requireRpc
  by_cases h : data.isRpc
  · simp [h]
  · simp [h, EStateM.run_bind]

lemma received_stamp {f : Nat → M Unit}
    (hf : ∀ s t id, Step (some id) (stampEvents id) s t → Stamped id s (after (f id) t))
    (s : State) : Received s (after (stampRequest data >>= f) s) := by
  refine after_bind (fun e t h => ?_) fun id t h => ?_
  · rw [stampRequest_run] at h
    split at h
    · cases h
    · cases h
      exact .inl ⟨_, step_draw s⟩
  · rw [stampRequest_run] at h
    split at h
    · cases h
      exact .inr ⟨_, hf s _ _ (step_stamp s)⟩
    · cases h

lemma Step.stamped {id : Nat} {s t : State} (h : Step (some id) (stampEvents id) s t) :
    Stamped id s t := ⟨_, h, List.Subset.refl _⟩

lemma Step.stamped_store {id : Nat} {s t : State} (h : Step (some id) (stampEvents id) s t)
    (actionName : Str) (u : UUID) (actionType : ActionType) (protocol : Protocol) :
    Stamped id s (after (storeActionRequest env actionName u id actionType protocol) t) := by
  obtain ⟨new', h'⟩ := h.store rfl List.mem_cons_self env actionName u actionType protocol
  exact ⟨_, h', List.subset_append_left _ _⟩

lemma keeps_relatedRequestId {R : State → State → Prop} [IsPreorder State R] :
    Keeps R (relatedRequestId data) := by
  unfold relatedRequestId requireRpc
  exact (Keeps.ite (Keeps.pure _) (Keeps.throw _)).bind fun _ => Keeps.pure _

lemma keeps_replyStoredResult (actionName : Str) (u : UUID) (id : Nat) :
    Keeps (Evolves (some id)) (replyStoredResult env actionName u id) := by
  unfold replyStoredResult
  refine (Keeps.readHandler _).bind fun r => ?_
  split
  · exact (keeps_getResultReplyCallback env actionName u _ id).discard
  · exact Keeps.pure _

variable (info : RpcInfo)

lemma received_addServiceData (s : State) :
    Received s (after (addServiceData env info data msg dynType) s) := by
  unfold addServiceData
  split
  · refine received_stamp data (fun s t id h => ?_) s
    exact h.stamped.trans (keeps_writeServiceRequestNotification env admits_evolves msg dynType _ t)
  · refine .inl (((keeps_relatedRequestId data).bind fun id => ?_) s)
    exact keeps_writeServiceReplyNotification env admits_evolves msg dynType id _

lemma keeps_addResultReply {R : State → State → Prop} [IsPreorder State R] (hR : Admits o R) :
    Keeps R (addResultReply env info data msg dynType) := by
  unfold addResultReply
  refine (keeps_relatedRequestId data).bind fun id => (Keeps.readHandler _).bind fun found => ?_
  split
  · exact (keeps_writeActionResultNotification env hR msg dynType _ _).bind
      fun _ => hR.erase _ _
  · exact (Keeps.pure _).bind fun _ => hR.erase _ _

lemma keeps_addGoalReply : Keeps (Evolves o) (addGoalReply env info data msg dynType) := by
  unfold addGoalReply
  refine (keeps_relatedRequestId data).bind fun id => (Keeps.readHandler _).bind fun found => ?_
  split
  · exact keeps_writeActionGoalReplyNotification env msg dynType _ _
  · exact Keeps.pure _

lemma keeps_addCancelReply {R : State → State → Prop} [IsPreorder State R] (hR : Admits o R) :
    Keeps R (addCancelReply env info data msg dynType) := by
  unfold addCancelReply
  refine (keeps_relatedRequestId data).discard.bind fun _ => ?_
  exact keeps_writeActionCancelReplyNotification env hR msg dynType _

lemma received_addActionRequest (s : State) :
    Received s (after (addActionRequest env info data msg dynType) s) := by
  unfold addActionRequest
  refine received_stamp data (fun s t id h => ?_) s
  rcases hu : uuidFromRequestJson env msg dynType with e | u
  · exact h.stamped
  · rcases u with _ | u
    · exact h.stamped
    · have hstore := h.stamped_store env info.actionName u info.actionType .ros2
      rw [lift_ok, pure_bind]
      refine after_bind (fun e t' h' => after_error h' ▸ hstore) fun b t' h' => ?_
      refine (after_ok h' ▸ hstore).trans (Keeps.ite ?_ (Keeps.pure _) t')
      exact keeps_writeActionRequestNotification env msg dynType id _ _

lemma received_addResultRequest (s : State) :
    Received s (after (addResultRequest env info data msg dynType) s) := by
  unfold addResultRequest
  rcases hu : uuidFromRequestJson env msg dynType with e | u
  · exact .inl (refl_of _ s)
  · rcases u with _ | u
    · exact .inl (refl_of _ s)
    · refine received_stamp data (fun s t id h => ?_) s
      have hstore := h.stamped_store env info.actionName u .result .ros2
      refine after_bind (fun e t' h' => after_error h' ▸ hstore) fun b t' h' => ?_
      refine (after_ok h' ▸ hstore).trans (Keeps.ite ?_ (Keeps.pure _) t')
      exact keeps_replyStoredResult env _ u id

lemma received_addActionData (s : State) :
    Received s (after (addActionData env info data msg dynType) s) := by
  unfold addActionData
  split
  · exact .inl (keeps_addResultReply env msg dynType data info admits_evolves s)
  · exact .inl (keeps_addGoalReply env msg dynType data info s)
  · exact .inl (keeps_addCancelReply env msg dynType data info admits_evolves s)
  · exact received_addActionRequest env msg dynType data info s
  · exact received_addActionRequest env msg dynType data info s
  · exact received_addResultRequest env msg dynType data info s
  · exact .inl (keeps_writeActionFeedbackNotification env admits_evolves msg dynType _ s)
  · exact .inl (keeps_writeActionStatusNotification env admits_evolves msg dynType _ s)
  · exact .inl (refl_of _ s)

lemma received_addKnownData (s : State) :
    Received s (after (addKnownData env info data msg dynType) s) := by
  unfold addKnownData
  split
  · exact .inl (keeps_writeData env admits_evolves msg dynType s)
  · exact received_addServiceData env msg dynType data info s
  · exact received_addActionData env msg dynType data info s

/-- **Received samples.** What a sample can do, whatever its topic and its payload. -/
theorem received_addData (topic : DdsTopic) (s : State) :
    Received s (after (addData env topic data) s) := by
  unfold addData
  rw [after_bind_ok (readHandler_run s _)]
  rcases s.handler.schemas.lookup topic.typeName with _ | ⟨typeId, dynType⟩
  · exact .inl (refl_of _ s)
  · have hcount : Evolves none s { s with handler := s.handler.countSample } :=
      evolves_handler rfl rfl
    change Received s (after (onHandler _ >>= _) s)
    rw [after_bind_ok (onHandler_run s _)]
    split
    · exact .inl hcount
    · exact .of_evolves hcount (received_addKnownData env _ dynType data _ _)

end Operations

end DdsEnabler
