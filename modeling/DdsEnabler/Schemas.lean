import DdsEnabler.AddData

/-!
The types that the handler grants identifiers of, and the schemas it keeps of them.

An identifier comes from the map of schemas, from the registry, or from a persisted type that the
user is asked for. A schema is kept under the name inside the dynamic type that was built, which
nobody compares with the name asked for; and for a persisted type nobody looks whether it was built
at all.
-/

namespace DdsEnabler

open Exec Tables

/-! ### Registering a persisted type -/

namespace TypeSupport

/-- What the loop of `register_type_nts_` comes to: the last type, none if one is refused. -/
def registered (types : TypeSupport) :
    List SerializedType → Str × Nat × Nat → Except Exc (Option (Str × Nat × Nat))
  | [], last => .ok (some last)
  | d :: l, _ =>
    match deserializeDynamicType types d with
    | .error e => .error e
    | .ok none => .ok none
    | .ok (some (name, i, o)) =>
      if types.registerTypeObject i o then registered types l (name, i, o) else .ok none

/-- The identifiers that it registers on the way. -/
def registeredIds (types : TypeSupport) : List SerializedType → List Nat
  | [] => []
  | d :: l =>
    match deserializeDynamicType types d with
    | .ok (some (_, i, o)) =>
      if types.registerTypeObject i o then i :: registeredIds types l else []
    | _ => []

/-- What `register_type_nts_` comes to. -/
def registeredType (types : TypeSupport) (typeName : Str) (serialized : List UInt8) :
    Except Exc (Option (Nat × Nat)) :=
  match types.deserializeDynamicTypes serialized with
  | none => .ok none
  | some l =>
    match registered types l ([], 0, 0) with
    | .error e => .error e
    | .ok none => .ok none
    | .ok (some (name, i, o)) => .ok (if name ≠ typeName then none else some (i, o))

end TypeSupport

section Register

variable (types : TypeSupport) (s : State)

lemma registerTypes_run (l : List SerializedType) (last : Str × Nat × Nat) :
    (registerTypes types l last).run s = ended (types.registered l last)
      (s.log ((types.registeredIds l).map .typeRegistered)) := by
  induction l generalizing last s with
  | nil => simp [registerTypes, TypeSupport.registered, TypeSupport.registeredIds]
  | cons d l ih =>
    unfold registerTypes TypeSupport.registered TypeSupport.registeredIds
    rcases deserializeDynamicType types d with e | _ | ⟨name, i, o⟩
    · simp
    · simp
    · by_cases hreg : types.registerTypeObject i o
      · simp [hreg, ih]
      · simp [hreg]

lemma registerType_run_of_collection (typeName : Str) {serialized : List UInt8}
    {l : List SerializedType} (h : types.deserializeDynamicTypes serialized = some l) :
    (registerType types typeName serialized).run s =
      ended (types.registeredType typeName serialized)
        (s.log ((types.registeredIds l).map .typeRegistered)) := by
  unfold registerType TypeSupport.registeredType
  have hrun := registerTypes_run types s l ([], 0, 0)
  simp only [h]
  rcases hr : types.registered l ([], 0, 0) with e | _ | ⟨name, i, o⟩ <;> rw [hr] at hrun
  · rw [run_bind_error hrun]
    rfl
  · rw [run_bind_ok hrun]
    rfl
  · rw [run_bind_ok hrun]
    rfl

lemma registerType_run (typeName : Str) (serialized : List UInt8) :
    ∃ ids : List Nat, (registerType types typeName serialized).run s =
      ended (types.registeredType typeName serialized) (s.log (ids.map .typeRegistered)) := by
  rcases h : types.deserializeDynamicTypes serialized with _ | l
  · exact ⟨[], by simp [registerType, TypeSupport.registeredType, h]⟩
  · exact ⟨_, registerType_run_of_collection types s typeName h⟩

end Register

/-! ### Schemas -/

/-- The handler with the schema of a type, unless there is one of its name. -/
def Handler.withSchema (h : Handler) (dynType : DynType) (typeId : Nat) : Handler :=
  if (h.schemas.lookup dynType.name).isSome then h
  else { h with schemas := h.schemas.insert dynType.name (typeId, dynType) }

lemma schemas_withSchema_of_none {h : Handler} {dynType : DynType} (typeId : Nat)
    (hnone : h.schemas.lookup dynType.name = none) (name : Str) :
    (h.withSchema dynType typeId).schemas.lookup name =
      if name = dynType.name then some (typeId, dynType) else h.schemas.lookup name := by
  rw [Handler.withSchema, hnone]
  exact lookup_insert _ _ _ _

lemma schemas_withSchema_of_ne {h : Handler} {dynType : DynType} (typeId : Nat) {name : Str}
    (hne : dynType.name ≠ name) :
    (h.withSchema dynType typeId).schemas.lookup name = h.schemas.lookup name := by
  unfold Handler.withSchema
  split
  · rfl
  · rw [lookup_insert, if_neg hne.symm]

/-- What a call of `write_schema` leaves in the trace. -/
def writtenEvents (env : Env) (dynType : DynType) (typeId : Nat) : List Event :=
  .writeSchema dynType.name typeId ::
    match env.describeType dynType typeId with
    | .ok (some d) =>
      if env.callbacks.typeNotification then [.typeNotification dynType.name d] else []
    | _ => []

lemma writeSchema_run (env : Env) (dynType : DynType) (typeId : Nat) (s : State) :
    (writeSchema env dynType typeId).run s =
      .ok () (s.log (writtenEvents env dynType typeId)) := by
  obtain ⟨d, hd⟩ := describeType_ok env dynType typeId
  unfold writeSchema writtenEvents
  rw [run_bind_ok (emit_run s _), hd]
  rcases d with _ | d
  · rfl
  · rcases hcb : env.callbacks.typeNotification <;> simp [notify]

/-- What is told where a schema is added. -/
def schemaEvents (env : Env) (h : Handler) (dynType : DynType) (typeId : Nat)
    (writeSchema : Bool) : List Event :=
  if (h.schemas.lookup dynType.name).isNone && writeSchema then writtenEvents env dynType typeId
  else []

@[simp] lemma schemaEvents_false (env : Env) (h : Handler) (dynType : DynType) (typeId : Nat) :
    schemaEvents env h dynType typeId false = [] := by simp [schemaEvents]

lemma addSchema_run (env : Env) (dynType : DynType) (typeId : Nat) (writeSchema : Bool)
    (s : State) : (addSchema env dynType typeId writeSchema).run s =
      .ok () ({ s with handler := s.handler.withSchema dynType typeId }.log
        (schemaEvents env s.handler dynType typeId writeSchema)) := by
  unfold addSchema Handler.withSchema schemaEvents
  rcases hknown : s.handler.schemas.lookup dynType.name with _ | v
  · rcases writeSchema
    · simp [hknown]
    · simp [hknown, writeSchema_run]
  · simp [hknown]

/-- The handler once the schema of a type object has been added, if its type could be built. -/
def Handler.withObject (h : Handler) (types : TypeSupport) (typeId typeObject : Nat) : Handler :=
  match types.createType typeObject with
  | some dynType => h.withSchema dynType typeId
  | none => h

lemma addSchemaOfObject_run (env : Env) (typeId typeObject : Nat) (writeSchema : Bool)
    (s : State) : (addSchemaOfObject env typeId typeObject writeSchema).run s =
      .ok (env.types.createType typeObject).isSome
        ({ s with handler := s.handler.withObject env.types typeId typeObject }.log
          ((env.types.createType typeObject).elim []
            (schemaEvents env s.handler · typeId writeSchema))) := by
  unfold addSchemaOfObject Handler.withObject
  rcases env.types.createType typeObject with _ | dynType
  · simp
  · exact run_bind_ok (addSchema_run env dynType typeId writeSchema s)

/-! ### Identifiers -/

/-- The type that the registry has under a name, with its identifier. -/
def Env.registryType (env : Env) (typeName : Str) : Option (Nat × DynType) :=
  match env.types.getTypeIdentifiers typeName with
  | none => none
  | some typeId =>
    match env.types.getTypeObject typeId with
    | none => none
    | some typeObject => (env.types.createType typeObject).map ((typeId, ·))

/-- The type registered from what the user answers, with its object. -/
def Env.queriedType (env : Env) (typeName : Str) : Except Exc (Option (Nat × Nat)) :=
  match env.callbacks.typeQuery with
  | none => .ok none
  | some query =>
    match query typeName with
    | none => .ok none
    | some serialized => env.types.registeredType typeName serialized

/-- What the user is asked for: a name that has no schema, nor a type in the registry. -/
structure Asks (env : Env) (typeName : Str) (s : State) : Prop where
  unknown : s.handler.schemas.lookup typeName = none
  unregistered : env.registryType typeName = none

section Identifier

variable {env : Env} {typeName : Str} {s : State}

lemma getTypeIdentifier_known {typeId : Nat} {dynType : DynType}
    (h : s.handler.schemas.lookup typeName = some (typeId, dynType)) :
    (getTypeIdentifier env typeName).run s = .ok (some typeId) s := by
  simp [getTypeIdentifier, h]

lemma identifierFromRegistry_some {typeId : Nat} {dynType : DynType}
    (h : env.registryType typeName = some (typeId, dynType)) (s : State) :
    (identifierFromRegistry env typeName).run s =
      .ok (some typeId) ({ s with handler := s.handler.withSchema dynType typeId }.log
        (schemaEvents env s.handler dynType typeId true)) := by
  unfold Env.registryType at h
  unfold identifierFromRegistry
  rcases hi : env.types.getTypeIdentifiers typeName with _ | i
  · simp [hi] at h
  · rcases ho : env.types.getTypeObject i with _ | o
    · simp [hi, ho] at h
    · rcases hd : env.types.createType o with _ | d
      · simp [hi, ho, hd] at h
      · simp only [hi, ho, hd, Option.map_some, Option.some.injEq, Prod.mk.injEq] at h
        obtain ⟨rfl, rfl⟩ := h
        simp only [ho]
        rw [run_bind_ok (addSchemaOfObject_run env i o true s)]
        simp [hd, Handler.withObject]

lemma identifierFromRegistry_none (h : env.registryType typeName = none) (s : State) :
    (identifierFromRegistry env typeName).run s = .ok none s := by
  unfold Env.registryType at h
  unfold identifierFromRegistry
  rcases hi : env.types.getTypeIdentifiers typeName with _ | i
  · rfl
  · rcases ho : env.types.getTypeObject i with _ | o
    · simp [ho]
    · have hd : env.types.createType o = none := by simpa [hi, ho] using h
      simp [ho, addSchemaOfObject, hd]

lemma getTypeIdentifier_registry {typeId : Nat} {dynType : DynType}
    (hs : s.handler.schemas.lookup typeName = none)
    (h : env.registryType typeName = some (typeId, dynType)) :
    (getTypeIdentifier env typeName).run s =
      .ok (some typeId) ({ s with handler := s.handler.withSchema dynType typeId }.log
        (schemaEvents env s.handler dynType typeId true)) := by
  unfold getTypeIdentifier
  rw [EStateM.run_bind, readHandler_run, hs]
  simp only
  rw [run_bind_ok (identifierFromRegistry_some h s)]
  rfl

lemma getTypeIdentifier_query (h : Asks env typeName s) :
    ∃ ids : List Nat, (getTypeIdentifier env typeName).run s =
      match env.queriedType typeName with
      | .error e => .error e (s.log (ids.map .typeRegistered))
      | .ok none => .ok none (s.log (ids.map .typeRegistered))
      | .ok (some (typeId, typeObject)) => .ok (some typeId)
          ({ s with handler := s.handler.withObject env.types typeId typeObject }.log
            (ids.map .typeRegistered)) := by
  have hstart : (getTypeIdentifier env typeName).run s =
      (identifierFromQuery env typeName).run s := by
    unfold getTypeIdentifier
    rw [EStateM.run_bind, readHandler_run, h.unknown]
    simp only
    rw [run_bind_ok (identifierFromRegistry_none h.unregistered s)]
  rw [hstart]
  unfold identifierFromQuery Env.queriedType
  rcases env.callbacks.typeQuery with _ | query
  · exact ⟨[], by simp⟩
  · simp only
    rcases query typeName with _ | serialized
    · exact ⟨[], by simp⟩
    · obtain ⟨ids, hrun⟩ := registerType_run env.types s typeName serialized
      refine ⟨ids, ?_⟩
      simp only
      rcases hr : env.types.registeredType typeName serialized with e | _ | ⟨i, o⟩ <;>
        rw [hr] at hrun
      · exact run_bind_error hrun
      · exact run_bind_ok hrun
      · have hadd := addSchemaOfObject_run env i o false (s.log (ids.map .typeRegistered))
        rw [run_bind_ok hrun]
        simp only
        rw [EStateM.run_bind, run_discard, hadd]
        rcases env.types.createType o <;> simp [State.log, Handler.withObject]

end Identifier

/-! ### What a grant comes with -/

/-- A schema under the name with the identifier, which data to send and received samples find. -/
def Usable (env : Env) (typeName : Str) (typeId : Nat) (s : State) : Prop :=
  ∃ dynType, s.handler.schemas.lookup typeName = some (typeId, dynType) ∧
    (∀ json, s.handler.getSerializedData env typeName json = env.serialize dynType json) ∧
    ∀ (topic : DdsTopic) (data : Sample), topic.typeName = typeName →
      data.payload.isEmpty = false → data.hasOwner = true → data.Accepted topic dynType s

lemma usable_iff {env : Env} {typeName : Str} {typeId : Nat} {s : State} :
    Usable env typeName typeId s ↔
      ∃ dynType, s.handler.schemas.lookup typeName = some (typeId, dynType) := by
  constructor
  · rintro ⟨dynType, h, -⟩
    exact ⟨dynType, h⟩
  · rintro ⟨dynType, h⟩
    refine ⟨dynType, h, fun json => by simp [Handler.getSerializedData, h], ?_⟩
    rintro topic data rfl hpayload howner
    exact ⟨⟨typeId, h⟩, hpayload, howner⟩

/-- An identifier that is granted is usable, and a refusal leaves the schemas as they are. -/
structure GrantsUsable (env : Env) (typeName : Str) (s : State) : Prop where
  granted : ∀ typeId t, (getTypeIdentifier env typeName).run s = .ok (some typeId) t →
    Usable env typeName typeId t
  refused : ∀ t, (getTypeIdentifier env typeName).run s = .ok none t →
    t.handler.schemas = s.handler.schemas

/-- A name without a schema is the name inside the type that can be built from the registry or,
where there is none, from the persisted type. -/
def NamesBuiltType (env : Env) (typeName : Str) (s : State) : Prop :=
  s.handler.schemas.lookup typeName = none →
    match env.registryType typeName with
    | some (_, dynType) => dynType.name = typeName
    | none => ∀ typeId typeObject, env.queriedType typeName = .ok (some (typeId, typeObject)) →
        ∃ dynType, env.types.createType typeObject = some dynType ∧ dynType.name = typeName

section Grant

variable {env : Env} {typeName : Str} {s : State}

lemma usable_withSchema_iff (hs : s.handler.schemas.lookup typeName = none) (dynType : DynType)
    (typeId : Nat) (es : List Event) :
    Usable env typeName typeId
        ({ s with handler := s.handler.withSchema dynType typeId }.log es) ↔
      dynType.name = typeName := by
  rw [usable_iff]
  by_cases hname : dynType.name = typeName
  · subst hname
    simp [schemas_withSchema_of_none typeId hs]
  · simp [schemas_withSchema_of_ne typeId hname, hs, hname]

lemma grantsUsable_known {typeId : Nat} {dynType : DynType}
    (h : s.handler.schemas.lookup typeName = some (typeId, dynType)) :
    GrantsUsable env typeName s where
  granted := by
    intro i t hrun
    rw [getTypeIdentifier_known h] at hrun
    cases hrun
    exact usable_iff.mpr ⟨dynType, h⟩
  refused := by
    intro t hrun
    rw [getTypeIdentifier_known h] at hrun
    cases hrun

lemma grantsUsable_registry {typeId : Nat} {dynType : DynType}
    (hs : s.handler.schemas.lookup typeName = none)
    (h : env.registryType typeName = some (typeId, dynType)) :
    GrantsUsable env typeName s ↔ dynType.name = typeName := by
  have hes := getTypeIdentifier_registry hs h
  have husable : Usable env typeName typeId _ ↔ _ := usable_withSchema_iff hs dynType typeId
    (schemaEvents env s.handler dynType typeId true)
  rw [← husable]
  refine ⟨fun hg => hg.granted _ _ hes, fun hname => ⟨?_, ?_⟩⟩
  · intro i t hrun
    rw [hes] at hrun
    cases hrun
    exact hname
  · intro t hrun
    rw [hes] at hrun
    cases hrun

/-- Whether the type that was registered can be built is not looked at. -/
lemma grantsUsable_query (h : Asks env typeName s) :
    GrantsUsable env typeName s ↔
      ∀ typeId typeObject, env.queriedType typeName = .ok (some (typeId, typeObject)) →
        ∃ dynType, env.types.createType typeObject = some dynType ∧ dynType.name = typeName := by
  obtain ⟨ids, hes⟩ := getTypeIdentifier_query h
  rcases hq : env.queriedType typeName with e | _ | ⟨i, o⟩ <;> rw [hq] at hes
  · refine ⟨fun _ _ _ hi => (by cases hi), fun _ => ⟨?_, ?_⟩⟩
    · intro i t hrun
      rw [hes] at hrun
      cases hrun
    · intro t hrun
      rw [hes] at hrun
      cases hrun
  · refine ⟨fun _ _ _ hi => (by cases hi), fun _ => ⟨?_, ?_⟩⟩
    · intro i t hrun
      rw [hes] at hrun
      cases hrun
    · intro t hrun
      rw [hes] at hrun
      cases hrun
      rfl
  · have husable : Usable env typeName i
        ({ s with handler := s.handler.withObject env.types i o }.log (ids.map .typeRegistered)) ↔
          ∃ dynType, env.types.createType o = some dynType ∧ dynType.name = typeName := by
      rcases hd : env.types.createType o with _ | dynType
      · simp [usable_iff, Handler.withObject, hd, h.unknown]
      · simp only [Handler.withObject, hd]
        rw [usable_withSchema_iff h.unknown]
        simp
    constructor
    · intro hg i' o' heq
      cases heq
      exact husable.mp (hg.granted _ _ hes)
    · intro hbuilt
      refine ⟨?_, ?_⟩
      · intro i' t hrun
        rw [hes] at hrun
        cases hrun
        exact husable.mpr (hbuilt i o rfl)
      · intro t hrun
        rw [hes] at hrun
        cases hrun

end Grant

/-- **A granted identifier comes with a usable schema** if and only if the type found under a name
without a schema can be built and has that name. -/
theorem grants_usable_iff (env : Env) (typeName : Str) (s : State) :
    GrantsUsable env typeName s ↔ NamesBuiltType env typeName s := by
  unfold NamesBuiltType
  rcases hs : s.handler.schemas.lookup typeName with _ | ⟨typeId, dynType⟩
  · rcases hr : env.registryType typeName with _ | ⟨typeId, dynType⟩
    · simp only [forall_const]
      exact grantsUsable_query ⟨hs, hr⟩
    · simp only [forall_const]
      exact grantsUsable_registry hs hr
  · simp [grantsUsable_known hs]

/-- The user answers with a type that is registered and cannot be built. -/
def unbuiltEnv : Env :=
  { Env.silent with
    callbacks := { Callbacks.unset with typeQuery := some fun _ => some [1] }
    types :=
      { Env.silent.types with
        registerTypeObject := fun _ _ => true
        deserializeDynamicTypes := fun _ => some [⟨"chatter".toList, [], []⟩] } }

/-- The identifier is granted and the type has no schema, so no data of it can be sent. -/
theorem granted_without_schema :
    (getTypeIdentifier unbuiltEnv "chatter".toList).run {} =
        .ok (some 0) (State.log {} [.typeRegistered 0]) ∧
      (∀ json, ({} : Handler).getSerializedData unbuiltEnv "chatter".toList json = false) ∧
      ¬ ∀ env typeName s, GrantsUsable env typeName s := by
  have hrun : (getTypeIdentifier unbuiltEnv "chatter".toList).run {} =
      .ok (some 0) (State.log {} [.typeRegistered 0]) := rfl
  refine ⟨hrun, fun _ => rfl, fun h => ?_⟩
  obtain ⟨dynType, hd, -⟩ := (h _ _ _).granted _ _ hrun
  simp [State.log] at hd

end DdsEnabler
