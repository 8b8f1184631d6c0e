import DdsEnabler.State

/-!
Types as they are written for the user.

A type goes into a collection after its dependencies. A dependency whose serialization is
inconsistent is left out of the collection, and the loop that leaves it out goes on.
-/

namespace DdsEnabler

/-- The information that the registry has of the types, and the codecs that persist them. -/
structure Persistence where
  types : TypeSupport
  /-- The dependencies in the complete `TypeInformation` of a type. -/
  getTypeInformation : Nat → Option (List Nat)
  base64Encode : Str → Str
  serializeIdentifier : Nat → Except Exc Str
  serializeObject : Nat → Except Exc Str
  serializeDynamicTypes : List SerializedType → Option (List UInt8)

namespace Persistence

variable (c : Persistence)

/-- The entry of a type and its object. -/
def entry (typeId typeObject : Nat) (typeName : Str) : Except Exc SerializedType := do
  let typeIdentifier ← c.serializeIdentifier typeId
  let object ← c.serializeObject typeObject
  return ⟨typeName, c.base64Encode typeIdentifier, c.base64Encode object⟩

/-- The overload of `serialize_dynamic_type` for a type object. -/
def serializeEntry (typeId typeObject : Nat) (typeName : Str)
    (dynamicTypes : List SerializedType) : Except Exc (Bool × List SerializedType) :=
  match c.entry typeId typeObject typeName with
  | .ok d => .ok (true, dynamicTypes ++ [d])
  | .error .inconsistency => .ok (false, dynamicTypes)
  | .error e => .error e

def dependencyName (typeName : Str) (dependencyIndex : Nat) : Str :=
  typeName ++ "_".toList ++ (toString dependencyIndex).toList

/-- The loop over the dependencies, whose counter is an `unsigned int`. -/
def serializeDependencies (typeName : Str) :
    List Nat → Nat → List SerializedType → Except Exc (Bool × List SerializedType)
  | [], _, dynamicTypes => .ok (true, dynamicTypes)
  | i :: deps, k, dynamicTypes =>
    match c.types.getTypeObject i with
    | none => .ok (false, dynamicTypes)
    | some o => do
      -- whether the dependency was stored is not looked at
      let (_, dynamicTypes) ← c.serializeEntry i o (dependencyName typeName k) dynamicTypes
      serializeDependencies typeName deps ((k + 1) % 2 ^ 32) dynamicTypes

def serializeDynamicType (typeName : Str) (typeId : Nat) (dynamicTypes : List SerializedType) :
    Except Exc (Bool × List SerializedType) :=
  match c.getTypeInformation typeId with
  | none => .ok (false, dynamicTypes)
  | some deps => do
    match ← c.serializeDependencies typeName deps 0 dynamicTypes with
    | (false, dynamicTypes) => return (false, dynamicTypes)
    | (true, dynamicTypes) =>
      match c.types.getTypeObject typeId with
      | none => return (false, dynamicTypes)
      | some o => c.serializeEntry typeId o typeName dynamicTypes

end Persistence

/-! ### What the writer makes of a type -/

/-- The persistence of the types of an environment. -/
def Env.persistence (env : Env) : Persistence where
  types := env.types
  getTypeInformation := env.writing.getTypeInformation
  base64Encode := env.writing.base64Encode
  serializeIdentifier := fun i =>
    (env.writing.serializeIdentifier i).elim (.error .inconsistency) .ok
  serializeObject := fun o => (env.writing.serializeObject o).elim (.error .inconsistency) .ok
  serializeDynamicTypes := env.writing.serializeDynamicTypes

/-- The part of the placeholder that is the user's, by the kind of the type. What does not parse, or
has no such part, is left as it is. -/
def filterPlaceholder (typeName : Str) : JsonText → JsonText
  | .other text => .other text
  | .doc j =>
    let part := fun k : String => JsonText.doc ((j.at? k.toList).getD j)
    if "SendGoal_Request_".toList <:+: typeName then part "goal"
    else if "GetResult_Response_".toList <:+: typeName then part "result"
    else if "FeedbackMessage_".toList <:+: typeName then part "feedback"
    else if ["SendGoal_Response_", "CancelGoal_Request_", "GetResult_Request_",
        "GoalStatusArray_"].any fun k => k.toList <:+: typeName then .doc (.obj [])
    else .doc j

/-- What `write_schema` finds out about a type, unless it returns early. -/
def Env.describeType (env : Env) (dynType : DynType) (typeId : Nat) :
    Except Exc (Option TypeDescription) :=
  match env.writing.idlSerialize dynType with
  | none => .ok none
  | some idl => do
    match ← env.persistence.serializeDynamicType dynType.name typeId [] with
    | (false, _) => return none
    | (true, types) =>
      match env.persistence.serializeDynamicTypes types with
      | none => return none
      | some serializedTypes =>
        match env.writing.jsonSerialize dynType with
        | none => return none
        | some placeholder =>
          return some ⟨idl, serializedTypes, filterPlaceholder dynType.name placeholder⟩

section Describe

lemma exists_ok_bind {α β : Type} {x : Except Exc α} {f : α → Except Exc β}
    (hx : ∃ a, x = .ok a) (hf : ∀ a, ∃ b, f a = .ok b) : ∃ b, x >>= f = .ok b := by
  obtain ⟨a, rfl⟩ := hx
  exact hf a

variable (env : Env) (dynamicTypes : List SerializedType)

lemma entry_cases (i o : Nat) (name : Str) :
    (∃ d, env.persistence.entry i o name = .ok d) ∨
      env.persistence.entry i o name = .error .inconsistency := by
  unfold Persistence.entry
  rcases hi : env.writing.serializeIdentifier i with _ | x
  · exact .inr (by simp [Env.persistence, hi, bind, Except.bind])
  · rcases ho : env.writing.serializeObject o with _ | y
    · exact .inr (by simp [Env.persistence, hi, ho, bind, Except.bind])
    · exact .inl (by simp [Env.persistence, hi, ho, bind, Except.bind, pure, Except.pure])

lemma serializeEntry_ok (i o : Nat) (name : Str) :
    ∃ r, env.persistence.serializeEntry i o name dynamicTypes = .ok r := by
  unfold Persistence.serializeEntry
  rcases entry_cases env i o name with ⟨d, h⟩ | h
  · rw [h]
    exact ⟨_, rfl⟩
  · rw [h]
    exact ⟨_, rfl⟩

lemma serializeDependencies_ok (name : Str) (deps : List Nat) (k : Nat) :
    ∃ r, env.persistence.serializeDependencies name deps k dynamicTypes = .ok r := by
  induction deps generalizing k dynamicTypes with
  | nil => exact ⟨_, rfl⟩
  | cons i deps ih =>
    unfold Persistence.serializeDependencies
    split
    · exact ⟨_, rfl⟩
    · exact exists_ok_bind (serializeEntry_ok env dynamicTypes i _ _) fun r => ih r.2 _

lemma serializeDynamicType_ok (name : Str) (typeId : Nat) :
    ∃ r, env.persistence.serializeDynamicType name typeId dynamicTypes = .ok r := by
  unfold Persistence.serializeDynamicType
  split
  · exact ⟨_, rfl⟩
  · refine exists_ok_bind (serializeDependencies_ok env dynamicTypes name _ 0) fun r => ?_
    split
    · exact ⟨_, rfl⟩
    · split
      · exact ⟨_, rfl⟩
      · exact serializeEntry_ok env _ typeId _ name

/-- Nothing is thrown that is not caught. -/
lemma describeType_ok (dynType : DynType) (typeId : Nat) :
    ∃ r, env.describeType dynType typeId = .ok r := by
  unfold Env.describeType
  split
  · exact ⟨_, rfl⟩
  · refine exists_ok_bind (serializeDynamicType_ok env [] dynType.name typeId) fun r => ?_
    split
    · exact ⟨_, rfl⟩
    · split
      · exact ⟨_, rfl⟩
      · split <;> exact ⟨_, rfl⟩

end Describe

end DdsEnabler
