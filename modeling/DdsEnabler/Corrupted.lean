import DdsEnabler.OneEndpoint
import DdsEnabler.Schemas

/-!
Persisted types that cannot be decoded.

Only one class of exceptions is caught where an entry of a collection is decoded, and the code
itself raises it for a text without bytes alone. What the base64 decoder and the CDR decoder raise
passes through every caller. And a refusal comes too late where schemas and services have been
entered, or erased, before the type is asked for.
-/

namespace DdsEnabler

open Exec Tables RpcInfo

/-! ### Decoding an entry -/

/-- `fastcdr::deserialize`, which raises exceptions of its own. -/
structure Cdr where
  identifier : Str → Except Exc Nat
  object : Str → Except Exc Nat
  identifier_raises : ∀ text, identifier text ≠ .error .inconsistency
  object_raises : ∀ text, object text ≠ .error .inconsistency

/-- The other checks of `deserialize_type_data` are of the buffer that it has just made. -/
def deserializeTypeData (deserialize : Str → Except Exc Nat) (text : Str) : Except Exc Nat :=
  if 0 < text.length then deserialize text else throw .inconsistency

/-- An `InconsistencyException` is thrown again with more to say. -/
def deserializeTypeIdentifier (cdr : Cdr) (typeidStr : Str) : Except Exc Nat :=
  deserializeTypeData cdr.identifier typeidStr

def deserializeTypeObject (cdr : Cdr) (typeobjStr : Str) : Except Exc Nat :=
  deserializeTypeData cdr.object typeobjStr

namespace TypeSupport

/-- The type support whose entries are decoded by `cdr`. -/
def reading (types : TypeSupport) (cdr : Cdr) : TypeSupport :=
  { types with
    deserializeIdentifier := deserializeTypeIdentifier cdr
    deserializeObject := deserializeTypeObject cdr }

/-- Only a text without bytes raises the exception that is caught. -/
structure RefusesEmpty (types : TypeSupport) : Prop where
  identifier : ∀ text, types.deserializeIdentifier text = .error .inconsistency ↔ text = []
  object : ∀ text, types.deserializeObject text = .error .inconsistency ↔ text = []

/-- The entry can be decoded. -/
def Decodes (types : TypeSupport) (d : SerializedType) : Prop :=
  ∃ entry, deserializeDynamicType types d = .ok (some entry)

/-- Nothing is left of one of the texts of the entry once it has been taken from base64, and
whatever is decoded before that can be decoded. -/
def Blank (types : TypeSupport) (d : SerializedType) : Prop :=
  ∃ typeId typeObject, types.base64Decode d.typeIdentifier = .ok typeId ∧
    types.base64Decode d.typeObject = .ok typeObject ∧
    (typeId = [] ∨ (∃ i, types.deserializeIdentifier typeId = .ok i) ∧ typeObject = [])

/-- There is an entry that cannot be decoded. -/
def Corrupted (types : TypeSupport) (l : List SerializedType) : Prop :=
  ∃ d ∈ l, ¬ types.Decodes d

/-- The entries are registered up to one that the registry refuses, or that is blank. -/
def StopsQuietly (types : TypeSupport) : List SerializedType → Prop
  | [] => True
  | d :: l => types.Blank d ∨ ∃ name i o, deserializeDynamicType types d = .ok (some (name, i, o)) ∧
      (types.registerTypeObject i o = true → types.StopsQuietly l)

end TypeSupport

lemma deserializeTypeData_inconsistency {deserialize : Str → Except Exc Nat}
    (h : ∀ text, deserialize text ≠ .error .inconsistency) (text : Str) :
    deserializeTypeData deserialize text = .error .inconsistency ↔ text = [] := by
  unfold deserializeTypeData
  by_cases hlen : 0 < text.length
  · rw [if_pos hlen]
    exact iff_of_false (h text) (List.ne_nil_of_length_pos hlen)
  · rw [if_neg hlen]
    exact iff_of_true rfl (List.eq_nil_of_length_eq_zero (by omega))

lemma TypeSupport.reading_refusesEmpty (types : TypeSupport) (cdr : Cdr) :
    (types.reading cdr).RefusesEmpty where
  identifier := deserializeTypeData_inconsistency cdr.identifier_raises
  object := deserializeTypeData_inconsistency cdr.object_raises

/-! ### Registering a collection -/

section Register

variable {types : TypeSupport} {d : SerializedType} {l : List SerializedType}

lemma deserializeDynamicType_none (h : types.RefusesEmpty) :
    deserializeDynamicType types d = .ok none ↔ types.Blank d := by
  unfold deserializeDynamicType TypeSupport.Blank
  rcases types.base64Decode d.typeIdentifier with e | typeId
  · simp [bind, Except.bind]
  · rcases types.base64Decode d.typeObject with e | typeObject
    · simp [bind, Except.bind]
    · simp only [bind, Except.bind, Except.ok.injEq, exists_and_left, exists_eq_left']
      rcases hi : types.deserializeIdentifier typeId with e | i
      · have hnil := h.identifier typeId
        rw [hi] at hnil
        by_cases he : e = .inconsistency
        · subst he
          simp [hnil.mp rfl, pure, Except.pure]
        · have hne : typeId ≠ [] := fun hid => he (by simpa using hnil.mpr hid)
          cases e <;> simp_all [throw, throwThe, MonadExceptOf.throw]
      · have hne : typeId ≠ [] := by
          rintro rfl
          rw [(h.identifier []).mpr rfl] at hi
          cases hi
        rcases ho : types.deserializeObject typeObject with e | o
        · have hnil := h.object typeObject
          rw [ho] at hnil
          by_cases he : e = .inconsistency
          · subst he
            simp [hnil.mp rfl, pure, Except.pure]
          · have hne' : typeObject ≠ [] := fun hid => he (by simpa using hnil.mpr hid)
            cases e <;> simp_all [throw, throwThe, MonadExceptOf.throw]
        · have hne' : typeObject ≠ [] := by
            rintro rfl
            rw [(h.object []).mpr rfl] at ho
            cases ho
          simp [hne, hne', pure, Except.pure]

/-- A corrupted collection is refused if it is read quietly, and throws otherwise. -/
lemma registered_corrupted (h : types.RefusesEmpty) (hl : types.Corrupted l)
    (last : Str × Nat × Nat) :
    (types.StopsQuietly l ∧ types.registered l last = .ok none) ∨
      (¬ types.StopsQuietly l ∧ ∃ e, types.registered l last = .error e) := by
  induction l generalizing last with
  | nil =>
    obtain ⟨d, hd, -⟩ := hl
    cases hd
  | cons d l ih =>
    unfold TypeSupport.registered TypeSupport.StopsQuietly
    have hblank := deserializeDynamicType_none (d := d) h
    rcases hd : deserializeDynamicType types d with e | _ | ⟨name, i, o⟩
    · rw [hd] at hblank
      have hnot : ¬ types.Blank d := fun hb => by simpa using hblank.mpr hb
      exact .inr ⟨by simp [hnot], e, rfl⟩
    · exact .inl ⟨.inl (hblank.mp hd), rfl⟩
    · have hrest : types.Corrupted l := by
        obtain ⟨d', hd', hnot⟩ := hl
        rcases List.mem_cons.mp hd' with rfl | hmem
        · exact absurd ⟨_, hd⟩ hnot
        · exact ⟨d', hmem, hnot⟩
      have hnot : ¬ types.Blank d := by
        rw [← hblank, hd]
        simp
      by_cases hreg : types.registerTypeObject i o = true
      · simp only [hreg, if_true]
        rcases ih hrest (name, i, o) with ⟨hquiet, hrun⟩ | ⟨hquiet, hrun⟩
        · exact .inl ⟨.inr ⟨name, i, o, rfl, fun _ => hquiet⟩, hrun⟩
        · refine .inr ⟨?_, hrun⟩
          rintro (hb | ⟨name', i', o', heq, himp⟩)
          · exact hnot hb
          · cases heq
            exact hquiet (himp hreg)
      · exact .inl ⟨.inr ⟨name, i, o, rfl, fun hr => absurd hr hreg⟩, if_neg hreg⟩

end Register

/-! ### Types that the user is asked for -/

/-- The collection that the user answers with. -/
def Env.collection (env : Env) (typeName : Str) : Option (List SerializedType) :=
  (env.callbacks.typeQuery.bind fun query => query typeName).bind
    env.types.deserializeDynamicTypes

/-- The user is asked for the type, and answers with a corrupted collection. -/
def Env.MeetsType (env : Env) (typeName : Str) (s : State) : Prop :=
  Asks env typeName s ∧ ∃ l, env.collection typeName = some l ∧ env.types.Corrupted l

/-- What the user answers is read quietly. -/
def Env.Quiet (env : Env) (typeName : Str) : Prop :=
  ∀ l, env.collection typeName = some l → env.types.StopsQuietly l

/-- The type that a granted name is built as. -/
def Env.builtType (env : Env) (typeName : Str) : Option DynType :=
  match env.registryType typeName with
  | some (_, dynType) => some dynType
  | none =>
    match env.queriedType typeName with
    | .ok (some (_, typeObject)) => env.types.createType typeObject
    | _ => none

/-- A grant adds no schema: the name has one, or the name inside the type has. -/
def Env.AddsNoSchema (env : Env) (typeName : Str) (s : State) : Prop :=
  s.handler.schemas.lookup typeName = none → ∀ dynType, env.builtType typeName = some dynType →
    s.handler.schemas.lookup dynType.name ≠ none

def State.SameSchemas (s t : State) : Prop :=
  ∀ name, t.handler.schemas.lookup name = s.handler.schemas.lookup name

section Types

variable {env : Env} {typeName : Str} {s u : State}

lemma registeredType_corrupted {types : TypeSupport} (h : types.RefusesEmpty)
    {serialized : List UInt8} {l : List SerializedType}
    (hl : types.deserializeDynamicTypes serialized = some l) (hcorrupted : types.Corrupted l)
    (typeName : Str) :
    (types.StopsQuietly l ∧ types.registeredType typeName serialized = .ok none) ∨
      (¬ types.StopsQuietly l ∧ ∃ e, types.registeredType typeName serialized = .error e) := by
  unfold TypeSupport.registeredType
  rw [hl]
  rcases registered_corrupted h hcorrupted ([], 0, 0) with ⟨hquiet, hrun⟩ | ⟨hquiet, e, hrun⟩
  · exact .inl ⟨hquiet, by simp only [hrun]⟩
  · exact .inr ⟨hquiet, e, by simp only [hrun]⟩

lemma stops_registerType {types : TypeSupport} (h : types.RefusesEmpty)
    {serialized : List UInt8} {l : List SerializedType}
    (hl : types.deserializeDynamicTypes serialized = some l) (hcorrupted : types.Corrupted l)
    (typeName : Str) (s : State) :
    ∃ es, Stops (registerType types typeName serialized) none (types.StopsQuietly l) s
      (s.log es) := by
  obtain ⟨ids, hrun⟩ := registerType_run types s typeName serialized
  refine ⟨ids.map .typeRegistered, ?_⟩
  rcases registeredType_corrupted h hl hcorrupted typeName with ⟨hquiet, hr⟩ | ⟨hquiet, e, hr⟩
  · rw [hr] at hrun
    exact .inl ⟨hquiet, hrun⟩
  · rw [hr] at hrun
    exact .inr ⟨hquiet, e, hrun⟩

lemma stops_getTypeIdentifier (h : env.types.RefusesEmpty) (hs : env.MeetsType typeName s) :
    ∃ es, Stops (getTypeIdentifier env typeName) none (env.Quiet typeName) s (s.log es) := by
  obtain ⟨hasks, l, hl, hcorrupted⟩ := hs
  have hquiet : env.Quiet typeName ↔ env.types.StopsQuietly l := by
    unfold Env.Quiet
    rw [hl]
    simp
  obtain ⟨ids, hrun⟩ := getTypeIdentifier_query hasks
  refine ⟨ids.map .typeRegistered, ?_⟩
  obtain ⟨serialized, hanswer, hserialized⟩ := Option.bind_eq_some_iff.mp hl
  obtain ⟨query, hquery, hanswer⟩ := Option.bind_eq_some_iff.mp hanswer
  have hqueried : env.queriedType typeName =
      env.types.registeredType typeName serialized := by
    unfold Env.queriedType
    simp only [hquery, hanswer]
  rw [hqueried] at hrun
  rcases registeredType_corrupted h hserialized hcorrupted typeName with
    ⟨hstops, hr⟩ | ⟨hstops, e, hr⟩
  · rw [hr] at hrun
    exact .inl ⟨hquiet.mpr hstops, hrun⟩
  · rw [hr] at hrun
    exact .inr ⟨fun hq => hstops (hquiet.mp hq), e, hrun⟩

lemma sameSchemas_withSchema (s : State) (dynType : DynType) (typeId : Nat) (es : List Event) :
    s.SameSchemas ({ s with handler := s.handler.withSchema dynType typeId }.log es) ↔
      s.handler.schemas.lookup dynType.name ≠ none := by
  constructor
  · intro h hnone
    have hadded : (s.handler.withSchema dynType typeId).schemas.lookup dynType.name =
        s.handler.schemas.lookup dynType.name := h dynType.name
    rw [schemas_withSchema_of_none typeId hnone, if_pos rfl, hnone] at hadded
    cases hadded
  · intro hsome name
    have hsame : s.handler.withSchema dynType typeId = s.handler :=
      if_pos (Option.isSome_iff_ne_none.mpr hsome)
    exact congrArg (fun h : Handler => h.schemas.lookup name) hsame

lemma getTypeIdentifier_granted {typeId : Nat}
    (h : (getTypeIdentifier env typeName).run s = .ok (some typeId) u) :
    u.participant = s.participant ∧ (s.SameSchemas u ↔ env.AddsNoSchema typeName s) := by
  refine ⟨(ignores_getTypeIdentifier env typeName).participant h, ?_⟩
  unfold Env.AddsNoSchema Env.builtType
  rcases hs : s.handler.schemas.lookup typeName with _ | ⟨i, dynType⟩
  · rcases hr : env.registryType typeName with _ | ⟨i, dynType⟩
    · obtain ⟨ids, hrun⟩ := getTypeIdentifier_query ⟨hs, hr⟩
      rcases hq : env.queriedType typeName with e | _ | ⟨i, o⟩
      · rw [h, hq] at hrun
        cases hrun
      · rw [h, hq] at hrun
        cases hrun
      · rw [h, hq] at hrun
        cases hrun
        unfold Handler.withObject
        rcases hd : env.types.createType o with _ | dynType
        · refine iff_of_true (fun _ => rfl) ?_
          simp [hd]
        · simp only [forall_const, hd, Option.some.injEq, forall_eq']
          exact sameSchemas_withSchema s dynType typeId _
    · have hrun := getTypeIdentifier_registry hs hr
      rw [h] at hrun
      cases hrun
      simp only [forall_const, Option.some.injEq, forall_eq']
      exact sameSchemas_withSchema s dynType typeId _
  · rw [getTypeIdentifier_known hs] at h
    cases h
    exact iff_of_true (fun _ => rfl) (fun hnone => by cases hnone)

end Types

/-! ### Topics and services -/

/-- The quality of service that comes with a topic can be read. -/
def Env.ReadsQos (env : Env) (info : TopicInfo) : Prop :=
  info.serializedQos.isEmpty = true ∨ (env.deserializeQos info.serializedQos).isSome = true

def Env.MeetsTopic (env : Env) (info : TopicInfo) (s : State) : Prop :=
  env.ReadsQos info ∧ env.MeetsType info.typeName s

/-- The type of one of the topics is corrupted, that of the reply once the request is granted. -/
def Env.MeetsService (env : Env) (info : ServiceInfo) (s : State) : Prop :=
  env.MeetsTopic info.request s ∨ ∃ typeId u, env.ReadsQos info.request ∧
    (getTypeIdentifier env info.request.typeName).run s = .ok (some typeId) u ∧
    env.MeetsTopic info.reply u

/-- The corrupted type is read quietly, and no schema has been added by then. -/
def Env.QuietService (env : Env) (info : ServiceInfo) (s : State) : Prop :=
  (env.MeetsTopic info.request s → env.Quiet info.request.typeName) ∧
    (¬ env.MeetsTopic info.request s →
      env.AddsNoSchema info.request.typeName s ∧ env.Quiet info.reply.typeName)

/-- The computation stops without the participant being touched: it returns `a` and leaves the
schemas as they are if and only if `C` holds. -/
def Halts {β : Type} (x : M β) (a : β) (C : Prop) (s : State) : Prop :=
  ∃ Q t, Stops x a Q s t ∧ t.participant = s.participant ∧ (Q ∧ s.SameSchemas t ↔ C)

section Topics

variable {env : Env} {info : TopicInfo} {s : State} {α β : Type} {x : M α} {f : α → M β} {a : α}
  {b : β} {C : Prop}

lemma Halts.bind (h : Halts x a C s) (hf : f a = pure b) : Halts (x >>= f) b C s := by
  obtain ⟨Q, t, hstops, hrest⟩ := h
  exact ⟨Q, t, hstops.bind (by rw [hf]; rfl), hrest⟩

lemma fillTopicStruct_eq (h : env.ReadsQos info) (topicName : Str) :
    ∃ qos, fillTopicStruct env topicName info =
      getTypeIdentifier env info.typeName >>= fun r => pure <| r.map fun typeIdentifier =>
        { topicName, typeName := info.typeName, qos, typeIdentifier } := by
  have hqos : ∃ qos, (if info.serializedQos.isEmpty then some {}
      else env.deserializeQos info.serializedQos) = some qos := by
    by_cases hempty : info.serializedQos.isEmpty = true
    · exact ⟨{}, if_pos hempty⟩
    · obtain ⟨qos, hread⟩ := Option.isSome_iff_exists.mp (h.resolve_left hempty)
      exact ⟨qos, (if_neg hempty).trans hread⟩
  obtain ⟨qos, hqos⟩ := hqos
  refine ⟨qos, ?_⟩
  unfold fillTopicStruct
  simp only [hqos]
  refine bind_congr fun r => ?_
  cases r with
  | none => rfl
  | some typeIdentifier => rfl

lemma stops_fillTopicStruct (h : env.types.RefusesEmpty) (hs : env.MeetsTopic info s)
    (topicName : Str) : ∃ es,
    Stops (fillTopicStruct env topicName info) none (env.Quiet info.typeName) s (s.log es) := by
  obtain ⟨qos, heq⟩ := fillTopicStruct_eq hs.1 topicName
  obtain ⟨es, hstops⟩ := stops_getTypeIdentifier h hs.2
  rw [heq]
  exact ⟨es, hstops.bind rfl⟩

lemma halts_fillServiceType (h : env.types.RefusesEmpty) {info : ServiceInfo}
    (hs : env.MeetsService info s) {protocol : Protocol} (hprotocol : protocol ≠ .unknown)
    (service : ServiceDiscovered) :
    Halts (fillServiceType env info service protocol) none (env.QuietService info s) s := by
  have hnames : ∃ request reply, requestTopic protocol service.serviceName = some request ∧
      replyTopic protocol service.serviceName = some reply := by
    cases protocol with
    | ros2 => exact ⟨_, _, rfl, rfl⟩
    | dds => exact ⟨_, _, rfl, rfl⟩
    | unknown => exact absurd rfl hprotocol
  obtain ⟨request, reply, hrequest, hreply⟩ := hnames
  unfold fillServiceType
  simp only [hrequest, hreply]
  unfold Env.QuietService
  by_cases hfirst : env.MeetsTopic info.request s
  · simp only [hfirst, forall_const, not_true_eq_false, false_imp_iff, and_true]
    obtain ⟨es, hstops⟩ := stops_fillTopicStruct h hfirst request
    exact ⟨_, s.log es, hstops.bind rfl, rfl, and_iff_left fun _ => rfl⟩
  · obtain ⟨typeId, u, hqos, hgranted, hsecond⟩ := hs.resolve_left hfirst
    obtain ⟨qos, heq⟩ := fillTopicStruct_eq hqos request
    obtain ⟨hu, hschemas⟩ := getTypeIdentifier_granted hgranted
    have hfound : (fillTopicStruct env request info.request).run s = .ok (some
        { topicName := request, typeName := info.request.typeName, qos, typeIdentifier := typeId })
          u := by
      rw [heq, run_bind_ok hgranted]
      rfl
    obtain ⟨es, hstops⟩ := stops_fillTopicStruct h hsecond reply
    simp only [hfirst, not_false_eq_true, false_imp_iff, true_and, forall_const]
    refine ⟨_, u.log es, .after_bind hfound (hstops.bind rfl), hu, ?_⟩
    rw [and_comm, ← hschemas]
    exact Iff.rfl

end Topics

/-! ### What a refusal leaves -/

/-- The schemas, the services and the actions are as they were; a service that has been replaced
is another object. -/
structure State.Untouched (s t : State) : Prop where
  schemas : s.SameSchemas t
  services : ∀ name, t.participant.services.find name = s.participant.services.find name
  objects : ∀ name,
    t.participant.services.generation name = s.participant.services.generation name
  actions : ∀ name, t.participant.actions.lookup name = s.participant.actions.lookup name

/-- The call returns `a`, without an exception, and nothing has been touched. -/
def Refuses {β : Type} (x : M β) (a : β) (s : State) : Prop :=
  ∃ t, x.run s = .ok a t ∧ s.Untouched t

section Refusals

variable {β : Type} {x : M β} {a : β} {C : Prop} {s t : State}

lemma refuses_iff_of_stops {Q : Prop} (h : Stops x a Q s t) :
    Refuses x a s ↔ Q ∧ s.Untouched t := by
  constructor
  · rintro ⟨u, hrun, hu⟩
    obtain ⟨hq, rfl⟩ := h.returns_iff.mp hrun
    exact ⟨hq, hu⟩
  · rintro ⟨hq, ht⟩
    exact ⟨t, h.returns_iff.mpr ⟨hq, rfl⟩, ht⟩

lemma untouched_iff_of_participant (h : t.participant = s.participant) :
    s.Untouched t ↔ s.SameSchemas t :=
  ⟨fun hu => hu.schemas, fun hs => ⟨hs, fun _ => by rw [h], fun _ => by rw [h], fun _ => by rw [h]⟩⟩

lemma Halts.refuses_iff (h : Halts x a C s) : Refuses x a s ↔ C := by
  obtain ⟨Q, t, hstops, ht, hquiet⟩ := h
  rw [refuses_iff_of_stops hstops, untouched_iff_of_participant ht]
  exact hquiet

lemma refuses_of_log {Q : Prop} {es : List Event} (h : Stops x a Q s (s.log es)) :
    Refuses x a s ↔ Q := by
  rw [refuses_iff_of_stops h]
  exact and_iff_left ⟨fun _ => rfl, fun _ => rfl, fun _ => rfl, fun _ => rfl⟩

end Refusals

/-! ### Actions -/

/-- The type of a topic of the part is corrupted. -/
def MeetsPart (env : Env) (info : ActionInfo) : ActionType → State → Prop
  | .feedback, s => env.MeetsTopic info.feedback s
  | .status, s => env.MeetsTopic info.status s
  | t, s => env.MeetsService (info.service t) s

/-- The parts are announced up to one with a corrupted type. -/
def MeetsParts (env : Env) (info : ActionInfo) (actionName : Str) :
    List ActionType → State → Prop
  | [], _ => False
  | t :: l, s => MeetsPart env info t s ∨
      ∃ u, (announcePart env info actionName t).run s = .ok true u ∧
        MeetsParts env info actionName l u

/-- The state without the entry of an action and without its services. -/
def State.cleared (s : State) (actionName : Str) : State :=
  { s with
    participant := ({ s.participant with
      actions := s.participant.actions.erase actionName } : Participant).withoutParts actionName }

section Actions

variable {env : Env} {info : ActionInfo} {actionName : Str} {s t u : State} {p : Participant}
  {name : Str}

lemma generation_without_le : p.services.generation n ≤ (p.without name).services.generation n := by
  unfold Participant.without
  split
  · change _ ≤ (ServiceMap.expire _ _).generation n
    rw [ServiceMap.generation_expire]
    split
    · next h => exact h ▸ Nat.le_succ _
    · exact le_rfl
  · exact le_rfl

lemma generation_withoutParts_le :
    p.services.generation name ≤ (p.withoutParts actionName).services.generation name :=
  (generation_without_le.trans generation_without_le).trans generation_without_le

lemma generation_served (p : Participant) (env : Env) (v : ServiceDiscovered) :
    (p.served env v).services.generation name =
      if name = v.serviceName then p.services.generation v.serviceName + 1
      else p.services.generation name := ServiceMap.generation_insertOrAssign ..

lemma generation_enterPart_le (p : Participant) (env : Env) (part : Part) :
    p.services.generation name ≤ (p.enterPart env part).2.services.generation name := by
  cases part with
  | service v =>
    simp only [Participant.enterPart]
    split
    · exact le_rfl
    · split
      · rw [generation_served]
        split
        · next h => exact h ▸ Nat.le_succ _
        · exact le_rfl
      · exact le_rfl
  | topic topic lookedUp =>
    simp only [Participant.enterPart]
    split
    · exact le_rfl
    · rw [awaited_services]

/-- A service that has been announced is a new object. -/
lemma generation_announcePart {part : ActionType} (hpart : isServicePart part)
    (h : (announcePart env info actionName part).run s = .ok true u) :
    s.participant.services.generation (partName actionName part) <
      u.participant.services.generation (partName actionName part) := by
  obtain ⟨r, s', hfind, h⟩ := ok_of_bind h
  have hs' : s'.participant = s.participant :=
    (ignores_findPart env info actionName part).participant hfind
  rcases r with _ | found
  · cases h
  · obtain ⟨request, reply, -, rfl⟩ := findPart_service env info actionName hpart hfind
    simp only [onParticipant_run, EStateM.Result.ok.injEq] at h
    obtain ⟨henter, rfl⟩ := h
    simp only [Participant.enterPart] at henter ⊢
    split at henter
    · cases henter
    · next hreader =>
      split at henter
      · next hc =>
        rw [if_neg hreader, if_pos hc, hs']
        simp only [generation_served]
        exact lt_of_lt_of_eq (Nat.lt_succ_self _) (if_pos rfl).symm
      · cases henter

lemma not_refuses_entered (hanew : s.participant.AnnouncesAnew actionName)
    (hinfo : env.actionInfo actionName = some info)
    (hgoal : (announcePart env info actionName .goal).run (s.cleared actionName) = .ok true u) :
    ¬ Refuses (announceAction env actionName .ros2) false s := by
  rintro ⟨t, hrun, huntouched⟩
  have hsame := huntouched.objects (partName actionName .goal)
  obtain ⟨actions, hafter⟩ := participant_announceNewAction hinfo { s with
    participant := { s.participant with actions := s.participant.actions.erase actionName } }
  rw [← after_congr (announceAction_run_anew hanew env), after_ok hrun] at hafter
  have hparts : after (announceParts env info actionName announcedParts) (s.cleared actionName) =
      after (announceParts env info actionName [.cancel, .result, .feedback, .status]) u := by
    rw [announcedParts, announceParts]
    exact after_bind_ok hgoal
  have hservices : t.participant.services = (after (announceParts env info actionName
      announcedParts) (s.cleared actionName)).participant.services := by
    rw [hafter]
    rfl
  have hfirst := generation_announcePart rfl hgoal
  have hrest : u.participant.services.generation (partName actionName .goal) ≤
      t.participant.services.generation (partName actionName .goal) := by
    rw [hservices, hparts]
    exact announceParts_inv (I := fun p => u.participant.services.generation
      (partName actionName .goal) ≤ p.services.generation (partName actionName .goal))
      (fun _ _ _ _ part _ hle => hle.trans (generation_enterPart_le _ env part)) le_rfl
  have hcleared : s.participant.services.generation (partName actionName .goal) ≤
      (s.cleared actionName).participant.services.generation (partName actionName .goal) :=
    generation_withoutParts_le (p := { s.participant with
      actions := s.participant.actions.erase actionName })
  omega

lemma withoutParts_of_none (h : ∀ part, isServicePart part →
    p.services.find (partName actionName part) = none) : p.withoutParts actionName = p := by
  have hwithout : ∀ n, p.services.find n = none → p.without n = p :=
    fun n hn => if_neg (by simp [hn])
  unfold Participant.withoutParts
  rw [hwithout _ (h .goal rfl), hwithout _ (h .cancel rfl), hwithout _ (h .result rfl)]

lemma untouched_cleared (h : t.participant = (s.cleared actionName).participant) :
    s.Untouched t ↔ s.SameSchemas t ∧ s.participant.actions.lookup actionName = none ∧
      ∀ part, isServicePart part →
        s.participant.services.find (partName actionName part) = none := by
  have hactions : ∀ n, t.participant.actions.lookup n =
      if n = actionName then none else s.participant.actions.lookup n := by
    intro n
    rw [h]
    simp only [State.cleared, withoutParts_actions]
    exact lookup_erase ..
  constructor
  · intro hu
    refine ⟨hu.schemas, ?_, fun part hpart => ?_⟩
    · rw [← hu.actions, hactions, if_pos rfl]
    · rw [← hu.services, h]
      exact find_withoutParts_part _ actionName hpart
  · rintro ⟨hschemas, hnone, hparts⟩
    have hservices : t.participant.services = s.participant.services := by
      have hsame : (s.cleared actionName).participant = { s.participant with
          actions := s.participant.actions.erase actionName } := withoutParts_of_none hparts
      rw [h, hsame]
    refine ⟨hschemas, fun n => by rw [hservices], fun n => by rw [hservices], fun n => ?_⟩
    rw [hactions]
    split
    · next hn => rw [hn, hnone]
    · rfl

lemma stops_announceNewAction {Q : Prop} (hinfo : env.actionInfo actionName = some info)
    (h : Stops (announceParts env info actionName announcedParts) false Q
      { s with participant := s.participant.withoutParts actionName } t) :
    Stops (announceNewAction env actionName .ros2) false Q s t := by
  rcases h with ⟨hq, hparts⟩ | ⟨hq, e, hparts⟩
  · obtain ⟨a, hrun⟩ := (announceNewAction_answered hinfo).1 false hparts
    exact .inl ⟨hq, hrun⟩
  · exact .inr ⟨hq, e, (announceNewAction_answered hinfo).2 e hparts⟩

lemma refuses_announceAction_goal (h : env.types.RefusesEmpty)
    (hanew : s.participant.AnnouncesAnew actionName) (hinfo : env.actionInfo actionName = some info)
    (hgoal : env.MeetsService info.goal (s.cleared actionName)) :
    Refuses (announceAction env actionName .ros2) false s ↔
      (s.participant.actions.lookup actionName = none ∧ ∀ part, isServicePart part →
        s.participant.services.find (partName actionName part) = none) ∧
      env.QuietService info.goal (s.cleared actionName) := by
  obtain ⟨Q, t, hstops, ht, hquiet⟩ := halts_fillServiceType h hgoal
    (show Protocol.ros2 ≠ .unknown from nofun)
    { serviceName := partName actionName .goal, protocol := .ros2 }
  have hfind : Stops (findPart env info actionName .goal) none Q (s.cleared actionName) t :=
    hstops.bind rfl
  have hpart : Stops (announcePart env info actionName .goal) false Q (s.cleared actionName) t :=
    hfind.bind rfl
  have hparts : Stops (announceParts env info actionName announcedParts) false Q
      (s.cleared actionName) t := by
    rw [announcedParts, announceParts]
    exact hpart.bind rfl
  have hnew := stops_announceNewAction (s := { s with participant := { s.participant with
    actions := s.participant.actions.erase actionName } }) hinfo hparts
  rw [refuses_iff_of_stops (hnew.congr (announceAction_run_anew hanew env)), untouched_cleared ht,
    ← hquiet]
  constructor
  · rintro ⟨hq, hschemas, hnone⟩
    exact ⟨hnone, hq, hschemas⟩
  · rintro ⟨hnone, hq, hschemas⟩
    exact ⟨hq, hschemas, hnone⟩

end Actions

/-! ### The calls -/

/-- What the user tells of a topic. -/
def Env.topicInfo (env : Env) (topicName : Str) : Option TopicInfo :=
  env.callbacks.topicQuery.bind fun query => query topicName

/-- What the user tells of a service. -/
def Env.serviceInfo (env : Env) (serviceName : Str) : Option ServiceInfo :=
  env.callbacks.serviceQuery.bind fun query => query serviceName

/-- The calls that the user is asked for types in; a collection is registered as it is. -/
inductive TypeCall
  | registerType (typeName : Str) (serialized : List UInt8)
  | getTypeIdentifier (typeName : Str)
  | publish (topicName : Str) (json : JsonText)
  | announceService (serviceName : Str) (protocol : Protocol)
  | announceAction (actionName : Str) (protocol : Protocol)

namespace TypeCall

/-- The call comes to a corrupted collection. -/
def Meets (env : Env) (s : State) : TypeCall → Prop
  | .registerType _ serialized =>
    ∃ l, env.types.deserializeDynamicTypes serialized = some l ∧ env.types.Corrupted l
  | .getTypeIdentifier typeName => env.MeetsType typeName s
  | .publish topicName _ => topicName ≠ [] ∧ s.participant.lookupReader topicName = none ∧
      ∃ info, env.topicInfo topicName = some info ∧ env.MeetsTopic info s
  | .announceService serviceName protocol => protocol ≠ .unknown ∧
      s.participant.services.find serviceName = none ∧
      ∃ info, env.serviceInfo serviceName = some info ∧ env.MeetsService info s
  | .announceAction actionName protocol => protocol = .ros2 ∧
      s.participant.AnnouncesAnew actionName ∧ ∃ info, env.actionInfo actionName = some info ∧
        MeetsParts env info actionName announcedParts (s.cleared actionName)

/-- The call fails without an exception, and nothing has been touched. -/
def Refused (env : Env) (s : State) : TypeCall → Prop
  | .registerType typeName serialized =>
    Refuses (DdsEnabler.registerType env.types typeName serialized) none s
  | .getTypeIdentifier typeName => Refuses (DdsEnabler.getTypeIdentifier env typeName) none s
  | .publish topicName json => Refuses (DdsEnabler.publish env topicName json) false s
  | .announceService serviceName protocol =>
    Refuses (DdsEnabler.announceService env serviceName protocol) false s
  | .announceAction actionName protocol =>
    Refuses (DdsEnabler.announceAction env actionName protocol) false s

/-- The collection is read quietly, and nothing has been entered or erased before: of an action,
the goal service has the corrupted type, and neither an entry nor a service was there. -/
def Quiet (env : Env) (s : State) : TypeCall → Prop
  | .registerType _ serialized =>
    ∀ l, env.types.deserializeDynamicTypes serialized = some l → env.types.StopsQuietly l
  | .getTypeIdentifier typeName => env.Quiet typeName
  | .publish topicName _ => ∀ info, env.topicInfo topicName = some info → env.Quiet info.typeName
  | .announceService serviceName _ =>
    ∀ info, env.serviceInfo serviceName = some info → env.QuietService info s
  | .announceAction actionName _ => (s.participant.actions.lookup actionName = none ∧
      ∀ part, isServicePart part →
        s.participant.services.find (partName actionName part) = none) ∧
      ∀ info, env.actionInfo actionName = some info →
        env.MeetsService info.goal (s.cleared actionName) ∧
          env.QuietService info.goal (s.cleared actionName)

variable {env : Env} {s : State}

lemma refused_registerType (h : env.types.RefusesEmpty) {typeName : Str}
    {serialized : List UInt8} (hs : Meets env s (.registerType typeName serialized)) :
    Refused env s (.registerType typeName serialized) ↔
      Quiet env s (.registerType typeName serialized) := by
  obtain ⟨l, hl, hcorrupted⟩ := hs
  obtain ⟨es, hstops⟩ := stops_registerType h hl hcorrupted typeName s
  simp only [Refused, Quiet, hl, Option.some.injEq, forall_eq']
  exact refuses_of_log hstops

lemma refused_publish (h : env.types.RefusesEmpty) {topicName : Str} {json : JsonText}
    (hs : Meets env s (.publish topicName json)) :
    Refused env s (.publish topicName json) ↔ Quiet env s (.publish topicName json) := by
  obtain ⟨hname, hreader, info, hinfo, htopic⟩ := hs
  obtain ⟨query, hquery, hanswer⟩ := Option.bind_eq_some_iff.mp hinfo
  obtain ⟨es, hstops⟩ := stops_fillTopicStruct h htopic topicName
  have hq : queryTopic env topicName = fillTopicStruct env topicName info := by
    unfold queryTopic
    simp only [hquery, hanswer]
  have hempty : ¬ topicName.isEmpty = true := by simpa using hname
  have hread : (readParticipant (·.lookupReader topicName)).run s = .ok none s := by
    rw [readParticipant_run, hreader]
  have hcall : Stops (DdsEnabler.publish env topicName json) false (env.Quiet info.typeName) s
      (s.log es) := by
    unfold DdsEnabler.publish
    rw [if_neg hempty]
    refine .after_bind hread ?_
    simp only [hq]
    exact hstops.bind rfl
  simp only [Refused, Quiet, hinfo, Option.some.injEq, forall_eq']
  exact refuses_of_log hcall

lemma refused_announceService (h : env.types.RefusesEmpty) {serviceName : Str}
    {protocol : Protocol} (hs : Meets env s (.announceService serviceName protocol)) :
    Refused env s (.announceService serviceName protocol) ↔
      Quiet env s (.announceService serviceName protocol) := by
  obtain ⟨hprotocol, hnew, info, hinfo, hservice⟩ := hs
  obtain ⟨query, hquery, hanswer⟩ := Option.bind_eq_some_iff.mp hinfo
  have hq : queryService env { serviceName, protocol } protocol =
      fillServiceType env info { serviceName, protocol } protocol := by
    unfold queryService
    simp only [hquery, hanswer]
  have hread : (readParticipant (·.services.find serviceName)).run s = .ok none s := by
    rw [readParticipant_run, hnew]
  have hcall : Halts (DdsEnabler.announceService env serviceName protocol) false
      (env.QuietService info s) s := by
    obtain ⟨Q, t, hstops, hrest⟩ := halts_fillServiceType h hservice hprotocol
      { serviceName, protocol }
    refine ⟨Q, t, ?_, hrest⟩
    unfold DdsEnabler.announceService
    refine .after_bind hread ?_
    simp only [hq]
    exact hstops.bind rfl
  simp only [Refused, Quiet, hinfo, Option.some.injEq, forall_eq']
  exact hcall.refuses_iff

lemma refused_announceAction (h : env.types.RefusesEmpty) {actionName : Str}
    {protocol : Protocol} (hs : Meets env s (.announceAction actionName protocol)) :
    Refused env s (.announceAction actionName protocol) ↔
      Quiet env s (.announceAction actionName protocol) := by
  obtain ⟨rfl, hanew, info, hinfo, hparts⟩ := hs
  simp only [Refused, Quiet, hinfo, Option.some.injEq, forall_eq']
  by_cases hgoal : env.MeetsService info.goal (s.cleared actionName)
  · rw [and_iff_right hgoal]
    exact refuses_announceAction_goal h hanew hinfo hgoal
  · obtain ⟨u, hentered, -⟩ := hparts.resolve_left hgoal
    exact iff_of_false (not_refuses_entered hanew hinfo hentered) fun hq => hgoal hq.2.1

/-- **A corrupted type is refused** without an exception, and without a trace, if and only if the
first entry that cannot be decoded is blank or comes after one that the registry refuses, and
nothing has been entered or erased before. -/
theorem corrupted_refused_iff (env : Env) (cdr : Cdr) (s : State) (call : TypeCall)
    (h : call.Meets { env with types := env.types.reading cdr } s) :
    call.Refused { env with types := env.types.reading cdr } s ↔
      call.Quiet { env with types := env.types.reading cdr } s := by
  have hempty := env.types.reading_refusesEmpty cdr
  cases call with
  | registerType typeName serialized => exact refused_registerType hempty h
  | getTypeIdentifier typeName =>
    obtain ⟨es, hstops⟩ := stops_getTypeIdentifier hempty h
    exact refuses_of_log hstops
  | publish topicName json => exact refused_publish hempty h
  | announceService serviceName protocol => exact refused_announceService hempty h
  | announceAction actionName protocol => exact refused_announceAction hempty h

/-- Every topic is known to the user, with a type whose identifier is cut short: the first byte of a
hash is all there is. -/
def truncatedEnv : Env :=
  { Env.silent with
    callbacks := { Callbacks.unset with
      typeQuery := some fun _ => some [1]
      topicQuery := some fun _ => some ⟨"String".toList, []⟩ }
    types := { Env.silent.types with
      base64Decode := fun text => .ok (if text = "8g==".toList then [Char.ofNat 0xf2] else [])
      deserializeDynamicTypes := fun _ => some [⟨"String".toList, "8g==".toList, []⟩] } }

/-- No text can be decoded. -/
def truncatedCdr : Cdr where
  identifier _ := .error .cdrException
  object _ := .error .cdrException
  identifier_raises _ := by simp
  object_raises _ := by simp

def publishCall : TypeCall := .publish "chatter".toList (.other [])

lemma publishCall_meets : publishCall.Meets
    { truncatedEnv with types := truncatedEnv.types.reading truncatedCdr } {} := by
  refine ⟨by simp, rfl, ⟨"String".toList, []⟩, rfl, .inl rfl, ⟨rfl, rfl⟩, _, rfl, _,
    List.mem_singleton_self _, ?_⟩
  rintro ⟨entry, h⟩
  cases h

theorem corrupted_refused_iff_chatter :
    publishCall.Refused { truncatedEnv with types := truncatedEnv.types.reading truncatedCdr } {} ↔
      publishCall.Quiet { truncatedEnv with types := truncatedEnv.types.reading truncatedCdr } {} :=
  corrupted_refused_iff truncatedEnv truncatedCdr {} publishCall publishCall_meets

/-- What the CDR decoder raises escapes from a publication. -/
theorem corrupted_thrown :
    outcome (DdsEnabler.publish { truncatedEnv with
        types := truncatedEnv.types.reading truncatedCdr } "chatter".toList (.other [])) {} =
        .error .cdrException ∧
      ¬ ∀ (env : Env) (cdr : Cdr) (s : State) (call : TypeCall),
        call.Meets { env with types := env.types.reading cdr } s →
          call.Refused { env with types := env.types.reading cdr } s := by
  have hthrown : outcome (DdsEnabler.publish { truncatedEnv with
      types := truncatedEnv.types.reading truncatedCdr } "chatter".toList (.other [])) {} =
      .error .cdrException := rfl
  refine ⟨hthrown, fun h => ?_⟩
  obtain ⟨t, hrun, -⟩ := h truncatedEnv truncatedCdr {} publishCall publishCall_meets
  rw [outcome_ok hrun] at hthrown
  cases hthrown

end TypeCall

end DdsEnabler
