import DdsEnabler.Publications
import DdsEnabler.Schemas
import DdsEnabler.Lib.Visits

/-!
What is recorded of types over a run, and what the user is told of them.

Discovery, the registry and the user's answers add schemas to one map; only the first two hand them
to the writer. Whatever else a sample does, it leaves the map alone.
-/

namespace DdsEnabler

open Exec Runs Tables

/-! ### What a sample leaves alone -/

/-- The type that an event hands to the writer. -/
def Event.writtenType : Event → Option (Str × Nat)
  | .writeSchema typeName typeIdentifier => some (typeName, typeIdentifier)
  | _ => none

/-- The types whose schemas are handed to `write_schema`. -/
def writtenTypes (es : List Event) : List (Str × Nat) := es.filterMap Event.writtenType

/-- The type that an event tells of. -/
def Event.typeNotice : Event → Option Str
  | .typeNotification typeName _ => some typeName
  | _ => none

/-- The types that the user is told of. -/
def typeNotices (es : List Event) : List Str := es.filterMap Event.typeNotice

@[simp] lemma writtenTypes_append (es es' : List Event) :
    writtenTypes (es ++ es') = writtenTypes es ++ writtenTypes es' := List.filterMap_append ..
@[simp] lemma typeNotices_append (es es' : List Event) :
    typeNotices (es ++ es') = typeNotices es ++ typeNotices es' := List.filterMap_append ..

/-- Schemas and samples are left alone, and no type is written or told of. -/
structure Aside (s t : State) : Prop where
  schemas : t.handler.schemas = s.handler.schemas
  samples : t.handler.uniqueSequenceNumber = s.handler.uniqueSequenceNumber
  trace : ∃ es, t.trace = s.trace ++ es ∧ writtenTypes es = [] ∧ typeNotices es = []

instance : IsPreorder State Aside where
  refl s := ⟨rfl, rfl, [], by simp, rfl, rfl⟩
  trans s t r h h' := by
    obtain ⟨es, htrace, hes, hnotices⟩ := h.trace
    obtain ⟨es', htrace', hes', hnotices'⟩ := h'.trace
    exact ⟨h'.schemas.trans h.schemas, h'.samples.trans h.samples, es ++ es',
      by rw [htrace', htrace, List.append_assoc], by rw [writtenTypes_append, hes, hes']; rfl,
      by rw [typeNotices_append, hnotices, hnotices']; rfl⟩

lemma newEvents_self (s : State) : newEvents s s = [] := newEvents_eq (List.append_nil _).symm

lemma aside_log {e : Event} (h : e.writtenType = none ∧ e.typeNotice = none) (s : State) :
    Aside s (s.log [e]) :=
  ⟨rfl, rfl, [e], rfl, by simp [writtenTypes, h.1], by simp [typeNotices, h.2]⟩

lemma aside_emit {e : Event} (h : e.writtenType = none ∧ e.typeNotice = none) :
    Keeps Aside (emit e) := aside_log h

lemma aside_onHandler {α : Type} {f : Handler → α × Handler}
    (h : ∀ g, (f g).2.schemas = g.schemas ∧
      (f g).2.uniqueSequenceNumber = g.uniqueSequenceNumber) : Keeps Aside (onHandler f) :=
  fun s => ⟨(h s.handler).1, (h s.handler).2, [], by rw [after_ok (onHandler_run s f)]; simp, rfl,
    rfl⟩

section Sample

variable (env : Env) (msg : Message) (dynType : DynType) (data : Sample) (info : RpcInfo)

lemma aside_getNewRequestId : Keeps Aside getNewRequestId :=
  (aside_onHandler fun _ => ⟨rfl, rfl⟩).bind fun _ =>
    (aside_emit ⟨rfl, rfl⟩).bind fun _ => Keeps.pure _

lemma aside_eraseActionUUID (u : UUID) (reason : ActionEraseReason) :
    Keeps Aside (eraseActionUUID u reason) := by
  refine (aside_onHandler fun g => ?_).bind fun _ => aside_emit ⟨rfl, rfl⟩
  simp only [Handler.eraseActionUUID]
  repeat' split
  all_goals exact ⟨rfl, rfl⟩

lemma aside_storeActionRequest (actionName : Str) (u : UUID) (id : Nat) (ty : ActionType)
    (protocol : Protocol) : Keeps Aside (storeActionRequest env actionName u id ty protocol) := by
  refine (aside_onHandler fun g => ?_).bind fun b =>
    Keeps.ite ((aside_emit ⟨rfl, rfl⟩).bind fun _ => Keeps.pure _) (Keeps.pure _)
  simp only [Handler.storeActionRequest]
  repeat' split
  all_goals exact ⟨rfl, rfl⟩

lemma admits_aside (o : Option Nat) : Admits o Aside where
  notice {e} he _ := by
    refine aside_log ?_
    cases e <;> first | exact ⟨rfl, rfl⟩ | cases he
  erase := aside_eraseActionUUID

lemma aside_publishRpc (topicName : Str) (json : JsonText) (id : Nat) :
    Keeps Aside (publishRpc env topicName json id) := by
  intro s
  rw [after_ok (publishRpc_run ..)]
  split
  · exact aside_log ⟨rfl, rfl⟩ s
  · exact refl_of _ s

lemma aside_sendServiceRequest (serviceName : Str) (json : JsonText) (protocol : Protocol) :
    Keeps Aside (sendServiceRequest env serviceName json protocol) := by
  unfold sendServiceRequest
  split
  · exact Keeps.pure _
  · refine aside_getNewRequestId.bind fun id => ?_
    exact (aside_publishRpc env _ _ id).bind fun _ => Keeps.pure _

lemma aside_sendServiceReply (serviceName : Str) (json : JsonText) (id : Nat) :
    Keeps Aside (sendServiceReply env serviceName json id) := by
  unfold sendServiceReply
  refine (Keeps.readParticipant _).bind fun protocol => ?_
  split
  · exact Keeps.pure _
  · exact aside_publishRpc env _ json id

lemma aside_cancelActionGoal (actionName : Str) (u : UUID) (timestamp : Int) :
    Keeps Aside (cancelActionGoal env actionName u timestamp) := by
  unfold cancelActionGoal
  refine (Keeps.readHandler _).bind fun active => Keeps.ite (Keeps.pure _) ?_
  refine (Keeps.readHandler _).bind fun protocol => ?_
  exact (aside_sendServiceRequest env _ _ protocol).bind fun _ => Keeps.pure _

lemma aside_getResultRequestCallback (actionName : Str) (u : UUID) :
    Keeps Aside (getResultRequestCallback env actionName u) := by
  have hcancel := (aside_cancelActionGoal env actionName u 0).discard
  have hsend : Keeps Aside (sendActionGetResultRequest env actionName u) := by
    unfold sendActionGetResultRequest
    refine (Keeps.readHandler _).bind fun protocol => ?_
    refine (aside_sendServiceRequest env _ _ protocol).bind fun r => Keeps.ite ?_ (Keeps.pure _)
    refine (aside_storeActionRequest env actionName u r.2 .result .ros2).bind fun b => ?_
    exact Keeps.ite (Keeps.pure _) (hcancel.bind fun _ => Keeps.pure _)
  have hemit : ∀ sent, Keeps Aside (do
      emit (.sendActionGetResultRequest actionName u sent)
      return sent) := fun sent => (aside_emit ⟨rfl, rfl⟩).bind fun _ => Keeps.pure _
  unfold getResultRequestCallback
  exact hsend.bind fun sent => Keeps.ite (hcancel.bind fun _ => hemit sent) (hemit sent)

lemma aside_getResultReplyCallback (actionName : Str) (u : UUID) (json : JsonText) (id : Nat) :
    Keeps Aside (getResultReplyCallback env actionName u json id) := by
  unfold getResultReplyCallback sendActionGetResultReply
  refine Keeps.bind ((aside_sendServiceReply env _ json id).bind fun sent =>
    Keeps.ite ?_ (Keeps.pure _)) fun sent => (aside_emit ⟨rfl, rfl⟩).bind fun _ => Keeps.pure _
  exact (aside_eraseActionUUID u .forced).bind fun _ => Keeps.pure _

lemma aside_writeActionGoalReplyNotification (u : UUID) (actionName : Str) :
    Keeps Aside (writeActionGoalReplyNotification env msg dynType u actionName) := by
  have hnotify := keeps_notifyStatus env (admits_aside none) msg actionName u
  unfold writeActionGoalReplyNotification
  split
  · exact Keeps.pure _
  · refine (Keeps.lift _).bind fun accepted => (hnotify _ _).bind fun _ =>
      Keeps.ite ?_ (Keeps.pure _)
    refine (aside_getResultRequestCallback env actionName u).bind fun sent => ?_
    exact Keeps.ite (hnotify _ _) (Keeps.pure _)

lemma aside_writeGoalRequest (id : Nat) (actionName : Str) (json : Json) :
    Keeps Aside (writeGoalRequest env msg id actionName json) := by
  have hreply : ∀ accepted, Keeps Aside (sendGoalReplyCallback env actionName id accepted) := by
    intro accepted
    unfold sendGoalReplyCallback sendActionSendGoalReply
    exact (aside_sendServiceReply env _ _ id).discard.bind fun _ => aside_emit ⟨rfl, rfl⟩
  unfold writeGoalRequest
  split
  · refine (Keeps.lift _).bind fun r => ?_
    split
    · exact Keeps.pure _
    · exact (aside_emit ⟨rfl, rfl⟩).bind fun _ => hreply _
  · exact hreply _

lemma aside_writeActionRequestNotification (id : Nat) (actionName : Str) (ty : ActionType) :
    Keeps Aside (writeActionRequestNotification env msg dynType id actionName ty) := by
  unfold writeActionRequestNotification
  split
  · exact Keeps.pure _
  · split
    · exact aside_writeGoalRequest env msg id actionName _
    · exact keeps_writeCancelRequest env (admits_aside _) msg actionName _
    · exact Keeps.pure _

lemma aside_stampRequest : Keeps Aside (stampRequest data) := by
  unfold stampRequest requireRpc
  refine aside_getNewRequestId.bind fun id => ?_
  refine (Keeps.ite (Keeps.pure _) (Keeps.throw _)).bind fun _ => ?_
  exact (aside_emit ⟨rfl, rfl⟩).bind fun _ => Keeps.pure _

lemma aside_addServiceData : Keeps Aside (addServiceData env info data msg dynType) := by
  unfold addServiceData
  refine Keeps.ite ((aside_stampRequest data).bind fun id => ?_)
    ((keeps_relatedRequestId data).bind fun id => ?_)
  · exact keeps_writeServiceRequestNotification env (admits_aside _) msg dynType _
  · exact keeps_writeServiceReplyNotification env (admits_aside none) msg dynType id _

lemma aside_addGoalReply : Keeps Aside (addGoalReply env info data msg dynType) := by
  unfold addGoalReply
  refine (keeps_relatedRequestId data).bind fun id => (Keeps.readHandler _).bind fun found => ?_
  split
  · exact aside_writeActionGoalReplyNotification env msg dynType _ _
  · exact Keeps.pure _

lemma aside_addActionRequest : Keeps Aside (addActionRequest env info data msg dynType) := by
  unfold addActionRequest
  refine (aside_stampRequest data).bind fun id => (Keeps.lift _).bind fun u => ?_
  split
  · exact Keeps.pure _
  · refine (aside_storeActionRequest env _ _ id _ _).bind fun b => Keeps.ite ?_ (Keeps.pure _)
    exact aside_writeActionRequestNotification env msg dynType id _ _

lemma aside_addResultRequest : Keeps Aside (addResultRequest env info data msg dynType) := by
  unfold addResultRequest
  refine (Keeps.lift _).bind fun u => ?_
  split
  · exact Keeps.pure _
  · refine (aside_stampRequest data).bind fun id => ?_
    refine (aside_storeActionRequest env _ _ id _ _).bind fun b => Keeps.ite ?_ (Keeps.pure _)
    unfold replyStoredResult
    refine (Keeps.readHandler _).bind fun r => ?_
    split
    · exact (aside_getResultReplyCallback env _ _ _ id).discard
    · exact Keeps.pure _

lemma aside_addKnownData : Keeps Aside (addKnownData env info data msg dynType) := by
  unfold addKnownData
  split
  · exact keeps_writeData env (admits_aside none) _ _
  · exact aside_addServiceData env msg dynType data info
  · unfold addActionData
    split
    · exact keeps_addResultReply env _ _ data info (admits_aside none)
    · exact aside_addGoalReply env msg dynType data info
    · exact keeps_addCancelReply env _ _ data info (admits_aside none)
    · exact aside_addActionRequest env msg dynType data info
    · exact aside_addActionRequest env msg dynType data info
    · exact aside_addResultRequest env msg dynType data info
    · exact keeps_writeActionFeedbackNotification env (admits_aside none) _ _ _
    · exact keeps_writeActionStatusNotification env (admits_aside none) _ _ _
    · exact Keeps.pure _

end Sample

/-! ### The system -/

/-- The operations about types, received samples, and whatever else happens, which is about the
participant and the goals. -/
inductive SchemaOp
  | addSchema (env : Env) (dynType : DynType) (typeId : Nat)
  | getTypeIdentifier (env : Env) (typeName : Str)
  | addData (env : Env) (topic : DdsTopic) (data : Sample)
  | elsewhere (participant : Participant) (goals : Table UUID ActionRequestInfo)

/-- Where the type of a schema comes from: it was discovered, it is in the registry, or the user has
answered with it. -/
inductive TypeSource | discovery | registry | query
  deriving DecidableEq

/-- A type that an operation comes with. -/
structure FoundType where
  source : TypeSource
  typeId : Nat
  dynType : DynType

namespace SchemaOp

def step (s : State) : SchemaOp → State
  | .addSchema env dynType typeId => after (DdsEnabler.addSchema env dynType typeId true) s
  | .getTypeIdentifier env typeName => after (DdsEnabler.getTypeIdentifier env typeName) s
  | .addData env topic data => after (DdsEnabler.addData env topic data) s
  | .elsewhere participant goals =>
    { s with participant, handler := { s.handler with actionRequestIdToUuid := goals } }

/-- The user listens for types, and this one can be described. -/
def tells (dynType : DynType) (typeId : Nat) : SchemaOp → Bool
  | .addSchema env .. | .getTypeIdentifier env .. => env.callbacks.typeNotification &&
    ((env.describeType dynType typeId).toOption.join).isSome
  | .addData .. | .elsewhere .. => false

/-- The type that the operation comes with: a name with a schema is not looked up any further. -/
def found (s : State) : SchemaOp → Option FoundType
  | .addSchema _ dynType typeId => some ⟨.discovery, typeId, dynType⟩
  | .getTypeIdentifier env typeName =>
    if (s.handler.schemas.lookup typeName).isSome then none
    else
      match env.registryType typeName with
      | some (typeId, dynType) => some ⟨.registry, typeId, dynType⟩
      | none =>
        match env.queriedType typeName with
        | .ok (some (typeId, typeObject)) =>
          (env.types.createType typeObject).map fun dynType => ⟨.query, typeId, dynType⟩
        | _ => none
  | .addData .. | .elsewhere .. => none

/-- The schema that the operation hands to the writer: one that it records, of a type that the user
has not answered with. -/
def handsOver (s : State) (op : SchemaOp) : Option (Str × Nat) :=
  (op.found s).bind fun f =>
    if f.source ≠ .query ∧ s.handler.schemas.lookup f.dynType.name = none then
      some (f.dynType.name, f.typeId)
    else none

/-- The topic of the sample, if the operation is one. -/
def sampled : SchemaOp → Option DdsTopic
  | .addData _ topic _ => some topic
  | .addSchema .. | .getTypeIdentifier .. | .elsewhere .. => none

/-- The operation is a sample of a type with a schema. -/
def Counts (s : State) (op : SchemaOp) : Prop :=
  ∃ topic, op.sampled = some topic ∧ (s.handler.schemas.lookup topic.typeName).isSome = true

/-- What an operation records, tells and counts. -/
structure Records (s : State) (op : SchemaOp) : Prop where
  schemas : (step s op).handler.schemas = ((op.found s).elim s.handler
    fun f => s.handler.withSchema f.dynType f.typeId).schemas
  created : ∀ name typeId, op.handsOver s = some (name, typeId) →
    s.handler.schemas.lookup name = none ∧
      ∃ dynType, (step s op).handler.schemas.lookup name = some (typeId, dynType)
  trace : ∃ es, (step s op).trace = s.trace ++ es
  /-- `write_schema` is called with the schema that is handed over, and with no other. -/
  written : writtenTypes (newEvents s (step s op)) = (op.handsOver s).toList
  told : typeNotices (newEvents s (step s op)) =
    if (op.found s).any fun f => op.tells f.dynType f.typeId then
      (op.handsOver s).toList.map Prod.fst
    else []
  counted : Counts s op → (step s op).handler.uniqueSequenceNumber =
    (s.handler.uniqueSequenceNumber + 1) % 2 ^ 32
  uncounted : ¬ Counts s op →
    (step s op).handler.uniqueSequenceNumber = s.handler.uniqueSequenceNumber
  /-- A sample of a type without a schema goes nowhere. -/
  dropped : ∀ topic, op.sampled = some topic →
    s.handler.schemas.lookup topic.typeName = none → step s op = s

variable {s : State} {env : Env} {op : SchemaOp} {es : List Event}

lemma created_of_schemas (hschemas : (step s op).handler.schemas = ((op.found s).elim s.handler
      fun f => s.handler.withSchema f.dynType f.typeId).schemas) (name : Str) (typeId : Nat)
    (h : op.handsOver s = some (name, typeId)) :
    s.handler.schemas.lookup name = none ∧
      ∃ dynType, (step s op).handler.schemas.lookup name = some (typeId, dynType) := by
  unfold handsOver at h
  rcases hfound : op.found s with _ | f
  · rw [hfound] at h
    cases h
  · rw [hfound, Option.bind_some] at h
    split at h
    case isFalse => cases h
    case isTrue hnew =>
      cases h
      refine ⟨hnew.2, f.dynType, ?_⟩
      rw [hschemas, hfound, Option.elim_some, schemas_withSchema_of_none _ hnew.2, if_pos rfl]

lemma records_of_log {h : Handler} (hstep : step s op = { s with handler := h }.log es)
    (hnot : op.sampled = none)
    (hschemas : h.schemas = ((op.found s).elim s.handler
      fun f => s.handler.withSchema f.dynType f.typeId).schemas)
    (hsamples : h.uniqueSequenceNumber = s.handler.uniqueSequenceNumber)
    (hwritten : writtenTypes es = (op.handsOver s).toList)
    (htold : typeNotices es = if (op.found s).any fun f => op.tells f.dynType f.typeId then
      (op.handsOver s).toList.map Prod.fst else []) : Records s op := by
  have htrace : (step s op).trace = s.trace ++ es := by
    rw [hstep]
    rfl
  have hidle : ¬ Counts s op := by
    rintro ⟨topic, htopic, -⟩
    rw [hnot] at htopic
    cases htopic
  have hrecorded : (step s op).handler.schemas = ((op.found s).elim s.handler
      fun f => s.handler.withSchema f.dynType f.typeId).schemas := by
    rw [hstep]
    exact hschemas
  exact {
    schemas := hrecorded
    created := created_of_schemas hrecorded
    trace := ⟨es, htrace⟩
    written := by
      rw [newEvents_eq htrace]
      exact hwritten
    told := by
      rw [newEvents_eq htrace]
      exact htold
    counted := fun hcounts => absurd hcounts hidle
    uncounted := by
      rw [hstep]
      exact fun _ => hsamples
    dropped := by
      rw [hnot]
      rintro topic ⟨⟩ }

lemma samples_withSchema (h : Handler) (dynType : DynType) (typeId : Nat) :
    (h.withSchema dynType typeId).uniqueSequenceNumber = h.uniqueSequenceNumber := by
  unfold Handler.withSchema
  split <;> rfl

lemma writtenTypes_writtenEvents (env : Env) (dynType : DynType) (typeId : Nat) :
    writtenTypes (writtenEvents env dynType typeId) = [(dynType.name, typeId)] := by
  unfold writtenEvents
  rcases env.describeType dynType typeId with _ | _ | d
  · rfl
  · rfl
  · rcases hcb : env.callbacks.typeNotification <;> rfl

lemma writtenTypes_schemaEvents (env : Env) (h : Handler) (dynType : DynType) (typeId : Nat) :
    writtenTypes (schemaEvents env h dynType typeId true) =
      (if h.schemas.lookup dynType.name = none then some (dynType.name, typeId)
        else none).toList := by
  unfold schemaEvents
  rcases hknown : h.schemas.lookup dynType.name with _ | x
  · simp [writtenTypes_writtenEvents]
  · simp [writtenTypes]

lemma typeNotices_schemaEvents (env : Env) (h : Handler) (dynType : DynType) (typeId : Nat) :
    typeNotices (schemaEvents env h dynType typeId true) =
      if env.callbacks.typeNotification &&
          ((env.describeType dynType typeId).toOption.join).isSome then
        (if h.schemas.lookup dynType.name = none then some (dynType.name, typeId)
          else none).toList.map Prod.fst
      else [] := by
  unfold schemaEvents
  rcases h.schemas.lookup dynType.name with _ | x
  · obtain ⟨d, hd⟩ := describeType_ok env dynType typeId
    unfold writtenEvents
    rw [hd]
    rcases d with _ | d
    · simp [typeNotices, Event.typeNotice, Except.toOption]
    · rcases env.callbacks.typeNotification
      · rfl
      · rfl
  · simp [typeNotices]

lemma records_of_discovered (dynType : DynType) (typeId : Nat) (source : TypeSource)
    (hsource : source ≠ .query) (hfound : op.found s = some ⟨source, typeId, dynType⟩)
    (hnot : op.sampled = none) (htells : op.tells dynType typeId =
      (env.callbacks.typeNotification &&
        ((env.describeType dynType typeId).toOption.join).isSome))
    (hstep : step s op = { s with handler := s.handler.withSchema dynType typeId }.log
      (schemaEvents env s.handler dynType typeId true)) : Records s op := by
  refine records_of_log hstep hnot (by rw [hfound, Option.elim_some])
    (samples_withSchema s.handler dynType typeId) ?_ ?_
  · rw [writtenTypes_schemaEvents, handsOver, hfound]
    simp [hsource]
  · rw [typeNotices_schemaEvents, handsOver, hfound]
    simp only [Option.any_some, htells, Option.bind_some, hsource, ne_eq, not_false_eq_true,
      true_and]

lemma records_addSchema (dynType : DynType) (typeId : Nat) :
    Records s (.addSchema env dynType typeId) :=
  records_of_discovered dynType typeId .discovery (by decide) rfl rfl rfl
    (after_ok (addSchema_run env dynType typeId true s))

lemma types_typeRegistered (ids : List Nat) : writtenTypes (ids.map .typeRegistered) = [] ∧
    typeNotices (ids.map .typeRegistered) = [] :=
  ⟨by simp [writtenTypes, Event.writtenType], by simp [typeNotices, Event.typeNotice]⟩

lemma records_of_untold {h : Handler} (hstep : step s op = { s with handler := h }.log es)
    (hnot : op.sampled = none) (hes : writtenTypes es = [] ∧ typeNotices es = [])
    (hsource : ∀ f ∈ op.found s, f.source = .query)
    (hh : h = (op.found s).elim s.handler fun f => s.handler.withSchema f.dynType f.typeId) :
    Records s op := by
  have hsamples : h.uniqueSequenceNumber = s.handler.uniqueSequenceNumber := by
    rw [hh]
    rcases op.found s with _ | f
    · rfl
    · exact samples_withSchema s.handler f.dynType f.typeId
  have hnone : op.handsOver s = none := by
    unfold handsOver
    rcases hfound : op.found s with _ | f
    · rfl
    · simp [hsource f hfound]
  refine records_of_log hstep hnot (by rw [hh]) hsamples ?_ ?_
  · rw [hes.1, hnone]
    rfl
  · rw [hes.2, hnone]
    split <;> rfl

lemma records_getTypeIdentifier (typeName : Str) :
    Records s (.getTypeIdentifier env typeName) := by
  rcases hs : s.handler.schemas.lookup typeName with _ | ⟨i, dynType⟩
  · rcases hr : env.registryType typeName with _ | ⟨i, dynType⟩
    · obtain ⟨ids, hrun⟩ := getTypeIdentifier_query ⟨hs, hr⟩
      have htold := types_typeRegistered ids
      rcases hq : env.queriedType typeName with e | _ | ⟨i, o⟩ <;> rw [hq] at hrun
      · have hfound : (SchemaOp.getTypeIdentifier env typeName).found s = none := by
          simp [found, hs, hr, hq]
        exact records_of_untold (after_error hrun) rfl htold (by simp [hfound])
          (by rw [hfound, Option.elim_none])
      · have hfound : (SchemaOp.getTypeIdentifier env typeName).found s = none := by
          simp [found, hs, hr, hq]
        exact records_of_untold (after_ok hrun) rfl htold (by simp [hfound])
          (by rw [hfound, Option.elim_none])
      · have hfound : (SchemaOp.getTypeIdentifier env typeName).found s =
            (env.types.createType o).map fun dynType => ⟨.query, i, dynType⟩ := by
          simp [found, hs, hr, hq]
        refine records_of_untold (after_ok hrun) rfl htold ?_ ?_
        · rw [hfound]
          rcases env.types.createType o <;> simp
        · rw [hfound, Handler.withObject]
          rcases env.types.createType o
          · rw [Option.map_none, Option.elim_none]
          · rw [Option.map_some, Option.elim_some]
    · exact records_of_discovered dynType i .registry (by decide) (by simp [found, hs, hr]) rfl rfl
        (after_ok (getTypeIdentifier_registry hs hr))
  · have hfound : (SchemaOp.getTypeIdentifier env typeName).found s = none := by simp [found, hs]
    have hstep : step s (.getTypeIdentifier env typeName) = { s with }.log [] := by
      rw [log_nil]
      exact after_ok (getTypeIdentifier_known hs)
    exact records_of_untold hstep rfl ⟨rfl, rfl⟩ (by simp [hfound])
      (by rw [hfound, Option.elim_none])

lemma aside_addData (env : Env) {topic : DdsTopic} (data : Sample)
    (h : (s.handler.schemas.lookup topic.typeName).isSome = true) :
    Aside s.count (step s (.addData env topic data)) := by
  obtain ⟨⟨typeId, dynType⟩, hschema⟩ := Option.isSome_iff_exists.mp h
  by_cases hbad : (data.payload.isEmpty || !data.hasOwner) = true
  · have hrun : (DdsEnabler.addData env topic data).run s = .error .inconsistency s.count := by
      simp [DdsEnabler.addData, hschema, hbad, State.count]
    have hstep : step s (.addData env topic data) = s.count := after_error hrun
    rw [hstep]
    exact refl_of _ _
  · have haccepted : data.Accepted topic dynType s := by
      simp only [Bool.or_eq_true, not_or, Bool.not_eq_true, Bool.not_eq_false'] at hbad
      exact ⟨⟨typeId, hschema⟩, hbad.1, hbad.2⟩
    have hstep : step s (.addData env topic data) = _ := after_congr (addData_run haccepted env)
    rw [hstep]
    exact aside_addKnownData ..

lemma records_addData (topic : DdsTopic) (data : Sample) :
    Records s (.addData env topic data) := by
  by_cases h : (s.handler.schemas.lookup topic.typeName).isSome = true
  · obtain ⟨hschemas, hsamples, es, htrace, hes, hnotices⟩ := aside_addData env data h
    exact {
      schemas := hschemas
      created := created_of_schemas hschemas
      trace := ⟨es, htrace⟩
      written := by
        rw [newEvents_eq (s := s) htrace, hes]
        rfl
      told := by
        rw [newEvents_eq (s := s) htrace, hnotices]
        rfl
      counted := fun _ => hsamples
      uncounted := fun hidle => absurd ⟨topic, rfl, h⟩ hidle
      dropped := by
        rintro _ ⟨⟩ hnone
        simp [hnone] at h }
  · have hstep : step s (.addData env topic data) = s := by
      have hrun : (DdsEnabler.addData env topic data).run s = .ok () s := by
        simp [DdsEnabler.addData, Option.not_isSome_iff_eq_none.mp h]
      exact after_ok hrun
    have hschemas : (step s (.addData env topic data)).handler.schemas = s.handler.schemas := by
      rw [hstep]
    exact {
      schemas := hschemas
      created := created_of_schemas hschemas
      trace := ⟨[], by rw [hstep, List.append_nil]⟩
      written := by
        rw [hstep, newEvents_self]
        rfl
      told := by
        rw [hstep, newEvents_self]
        rfl
      counted := by
        rintro ⟨_, ⟨⟩, hsome⟩
        exact absurd hsome h
      uncounted := by
        rw [hstep]
        exact fun _ => rfl
      dropped := fun _ _ _ => hstep }

lemma records_step (s : State) (op : SchemaOp) : Records s op := by
  cases op with
  | addSchema env dynType typeId => exact records_addSchema dynType typeId
  | getTypeIdentifier env typeName => exact records_getTypeIdentifier typeName
  | addData env topic data => exact records_addData topic data
  | elsewhere participant goals =>
    exact {
      schemas := rfl
      created := created_of_schemas rfl
      trace := ⟨[], (List.append_nil _).symm⟩
      written := congrArg writtenTypes (newEvents_self s)
      told := congrArg typeNotices (newEvents_self s)
      counted := by
        rintro ⟨_, ⟨⟩, -⟩
      uncounted := fun _ => rfl
      dropped := by
        rintro _ ⟨⟩ }

/-! ### Whole runs -/

lemma step_lookup {name : Str} {x : Nat × DynType}
    (h : s.handler.schemas.lookup name = some x) (op : SchemaOp) :
    (step s op).handler.schemas.lookup name = some x := by
  rw [(records_step s op).schemas]
  rcases op.found s with _ | f
  · exact h
  · rw [Option.elim_some]
    by_cases hname : f.dynType.name = name
    · subst hname
      rw [Handler.withSchema, if_pos (by rw [h]; rfl)]
      exact h
    · rw [schemas_withSchema_of_ne _ hname]
      exact h

/-- The types that the operations of a run hand to the writer. -/
def handed (s : State) (w : List SchemaOp) : List (Str × Nat) :=
  (visits step s w).flatMap fun m => (m.2.handsOver m.1).toList

lemma handed_cons (op : SchemaOp) (w : List SchemaOp) :
    handed s (op :: w) = (op.handsOver s).toList ++ handed (step s op) w := by
  simp [handed]

lemma nodup_handed (s : State) (w : List SchemaOp) :
    ((handed s w).map Prod.fst).Nodup ∧
      ∀ name ∈ (handed s w).map Prod.fst, s.handler.schemas.lookup name = none := by
  have hkeeps : ∀ s op name, s.handler.schemas.lookup name ≠ none →
      (step s op).handler.schemas.lookup name ≠ none := by
    intro s op name h
    obtain ⟨x, hx⟩ := Option.ne_none_iff_exists'.mp h
    rw [step_lookup hx op]
    exact Option.some_ne_none x
  have hcreates : ∀ s op, ∀ name ∈ (handsOver s op).toList.map Prod.fst,
      ¬ s.handler.schemas.lookup name ≠ none ∧
        (step s op).handler.schemas.lookup name ≠ none := by
    intro s op name hname
    obtain ⟨⟨name, typeId⟩, hhands, rfl⟩ := List.mem_map.mp hname
    obtain ⟨hnone, dynType, hsome⟩ :=
      (records_step s op).created name typeId (Option.mem_toList.mp hhands)
    exact ⟨not_not.mpr hnone, by rw [hsome]; exact Option.some_ne_none _⟩
  have honce : ∀ s op, ((handsOver s op).toList.map Prod.fst).Nodup := by
    intro s op
    rcases handsOver s op <;> simp
  simpa [handed, List.map_flatMap] using nodup_reports hkeeps hcreates honce s w

/-- The trace of a run only grows. It has a call of `write_schema` for each type that is handed
over, and tells of no other type. -/
lemma written_run (s : State) (w : List SchemaOp) :
    ∃ es, (run step s w).trace = s.trace ++ es ∧ writtenTypes es = handed s w ∧
      (typeNotices es).Sublist ((handed s w).map Prod.fst) := by
  induction w generalizing s with
  | nil => exact ⟨[], by simp, rfl, List.nil_sublist _⟩
  | cons op w ih =>
    obtain ⟨es, htrace, hwritten, htold⟩ := ih (step s op)
    obtain ⟨es', htrace'⟩ := (records_step s op).trace
    have hop := (records_step s op).written
    have hop' := (records_step s op).told
    rw [newEvents_eq htrace'] at hop hop'
    refine ⟨es' ++ es, by rw [run_cons, htrace, htrace', List.append_assoc], ?_, ?_⟩
    · rw [writtenTypes_append, handed_cons, hop, hwritten]
    · rw [typeNotices_append, handed_cons, hop', List.map_append]
      refine List.Sublist.append ?_ htold
      split
      · exact List.Sublist.refl _
      · exact List.nil_sublist _

/-- What a run records of types, what it hands to `write_schema` and what it tells. -/
structure RecordsOnce (s : State) (w : List SchemaOp) : Prop where
  /-- An entry that the first operations leave is as they left it at the end. -/
  stays : ∀ u v, w = u ++ v → ∀ name x, (run step s u).handler.schemas.lookup name = some x →
    (run step s w).handler.schemas.lookup name = some x
  handedOnce : ((writtenTypes (newEvents s (run step s w))).map Prod.fst).Nodup
  handedNew : ∀ name ∈ (writtenTypes (newEvents s (run step s w))).map Prod.fst,
    s.handler.schemas.lookup name = none
  toldOnce : (typeNotices (newEvents s (run step s w))).Nodup
  each : Along step Records s w

end SchemaOp

/-- **Types are recorded and reported once**, in whatever order they are discovered, asked for and
received. -/
theorem types_recorded_once (s : State) (w : List SchemaOp) : SchemaOp.RecordsOnce s w := by
  obtain ⟨es, htrace, hwritten, htold⟩ := SchemaOp.written_run s w
  have hnodup := SchemaOp.nodup_handed s w
  refine ⟨?_, ?_, ?_, ?_, along_of_forall SchemaOp.records_step s w⟩
  · rintro u v rfl name x hx
    rw [run_append]
    exact run_inv_all (I := fun s : State => s.handler.schemas.lookup name = some x)
      (fun _ op h => SchemaOp.step_lookup h op) hx v
  · rw [newEvents_eq htrace, hwritten]
    exact hnodup.1
  · rw [newEvents_eq htrace, hwritten]
    exact hnodup.2
  · rw [newEvents_eq htrace]
    exact hnodup.1.sublist htold

end DdsEnabler
