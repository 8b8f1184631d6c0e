import DdsEnabler.Serialization

/-!
The handler: the schemas, the counter of request identifiers and the map of goals.

The functions on `Handler` are what the class does to its own data under its mutex; the
operations that also call out or write to the user follow them.
-/

namespace DdsEnabler

open Tables

namespace Handler

/-! ### Goals -/

/-- Write the entry of a goal. -/
def insertEntry (h : Handler) (actionId : UUID) (i : ActionRequestInfo) : Handler :=
  { h with actionRequestIdToUuid := h.actionRequestIdToUuid.insert actionId i }

def eraseEntry (h : Handler) (actionId : UUID) : Handler :=
  { h with actionRequestIdToUuid := h.actionRequestIdToUuid.erase actionId }

/-- The entry of a goal. -/
def entry (h : Handler) (actionId : UUID) : Option ActionRequestInfo :=
  h.actionRequestIdToUuid.lookup actionId

def storeActionRequest (h : Handler) (actionName : Str) (actionId : UUID) (requestId : Nat)
    (actionType : ActionType) (protocol : Protocol) (now : Int) : Bool × Handler :=
  match h.entry actionId with
  | some i =>
    if i.actionName ≠ actionName then (false, h)
    else if actionType = .goal then (false, h)
    else (true, h.insertEntry actionId (i.setRequest requestId actionType))
  | none =>
    if actionType ≠ .goal then (false, h)
    else (true, h.insertEntry actionId (.create actionName actionType requestId protocol now))

def eraseActionUUID (h : Handler) (actionId : UUID) (reason : ActionEraseReason) : Handler :=
  match h.entry actionId with
  | some i =>
    if (i.erase reason).1 then h.eraseEntry actionId
    else h.insertEntry actionId (i.erase reason).2
  | none => h

/-- The entry of a goal recorded under an action. -/
def activeInfo (h : Handler) (actionName : Str) (actionId : UUID) : Option ActionRequestInfo :=
  (h.entry actionId).filter fun i => actionName = i.actionName

def isUUIDActive (h : Handler) (actionName : Str) (actionId : UUID) : Bool :=
  (h.activeInfo actionName actionId).isSome

/-- What `is_UUID_active` writes through its last argument. -/
def goalAcceptedStamp (h : Handler) (actionName : Str) (actionId : UUID) : Option Int :=
  (h.activeInfo actionName actionId).map (·.goalAcceptedStamp)

def getActionProtocol (h : Handler) (actionName : Str) (actionId : UUID) : Protocol :=
  match h.activeInfo actionName actionId with
  | some i => i.protocol
  | none => .unknown

/-- The entry holds the request identifier; an entry that throws is skipped. -/
def hasRequest (requestId : Nat) (actionType : ActionType) (i : ActionRequestInfo) : Bool :=
  match i.getRequest actionType with
  | .ok n => requestId = n
  | .error _ => false

def getActionRequestUUID (h : Handler) (order : VisitOrder) (requestId : Nat)
    (actionType : ActionType) : Option UUID :=
  scan (hasRequest requestId actionType) (order.visit h.actionRequestIdToUuid.entries)

def getActionResult (h : Handler) (actionId : UUID) : Option JsonText :=
  match h.entry actionId with
  | some i => if i.result.isEmpty then none else some i.result
  | none => none

/-- `set_result` on the entry of a goal. -/
def setResult (h : Handler) (actionId : UUID) (result : JsonText) : Bool × Handler :=
  match h.entry actionId with
  | some i => ((i.setResult result).1, h.insertEntry actionId (i.setResult result).2)
  | none => (false, h)

/-- `++requests_id_`, a 64-bit counter. -/
def nextRequestId (h : Handler) : Nat × Handler :=
  ((h.requestsId + 1) % 2 ^ 64, { h with requestsId := (h.requestsId + 1) % 2 ^ 64 })

end Handler

def getNewRequestId : M Nat := do
  let id ← onHandler Handler.nextRequestId
  emit (.newRequestId id)
  return id

def storeActionRequest (env : Env) (actionName : Str) (actionId : UUID) (requestId : Nat)
    (actionType : ActionType) (protocol : Protocol) : M Bool := do
  let stored ← onHandler fun h =>
    h.storeActionRequest actionName actionId requestId actionType protocol env.now
  if stored then
    emit (.storedRequest actionName actionId requestId actionType protocol env.now)
  return stored

def eraseActionUUID (actionId : UUID) (reason : ActionEraseReason) : M Unit := do
  onHandler fun h => ((), h.eraseActionUUID actionId reason)
  emit (.erasedAction actionId reason)

def setResult (actionId : UUID) (result : JsonText) : M Bool := do
  let stored ← onHandler (·.setResult actionId result)
  emit (.resultSet actionId result)
  return stored

/-! ### Entries -/

namespace Handler

variable (h : Handler) (u v : UUID) (i : ActionRequestInfo)

@[simp] lemma entry_insertEntry :
    (h.insertEntry u i).entry v = if v = u then some i else h.entry v :=
  lookup_insert _ _ _ _

@[simp] lemma entry_eraseEntry :
    (h.eraseEntry u).entry v = if v = u then none else h.entry v :=
  lookup_erase _ _ _

/-- What storing a request leaves of the entry of its goal. -/
def storeEntry (actionName : Str) (requestId : Nat) (actionType : ActionType)
    (protocol : Protocol) (now : Int) : Option ActionRequestInfo → Option ActionRequestInfo
  | some i =>
    if i.actionName ≠ actionName ∨ actionType = .goal then some i
    else some (i.setRequest requestId actionType)
  | none =>
    if actionType ≠ .goal then none
    else some (.create actionName actionType requestId protocol now)

/-- What an erasure leaves of the entry of its goal. -/
def eraseFlag (reason : ActionEraseReason) (i : ActionRequestInfo) : Option ActionRequestInfo :=
  if (i.erase reason).1 then none else some (i.erase reason).2

lemma entry_storeActionRequest (actionName : Str) (requestId : Nat) (actionType : ActionType)
    (protocol : Protocol) (now : Int) :
    (h.storeActionRequest actionName u requestId actionType protocol now).2.entry v =
      if v = u then storeEntry actionName requestId actionType protocol now (h.entry u)
      else h.entry v := by
  rcases hu : h.entry u with _ | i
  · by_cases ht : actionType = .goal
    · simp [storeActionRequest, storeEntry, hu, ht]
    · by_cases hv : v = u
      · simp [storeActionRequest, storeEntry, hu, ht, hv]
      · simp [storeActionRequest, hu, ht, hv]
  · by_cases hn : i.actionName = actionName
    · by_cases ht : actionType = .goal
      · by_cases hv : v = u
        · simp [storeActionRequest, storeEntry, hu, hn, ht, hv]
        · simp [storeActionRequest, hu, hn, ht, hv]
      · simp [storeActionRequest, storeEntry, hu, hn, ht]
    · by_cases hv : v = u
      · simp [storeActionRequest, storeEntry, hu, hn, hv]
      · simp [storeActionRequest, hu, hn, hv]

lemma entry_eraseActionUUID (reason : ActionEraseReason) :
    (h.eraseActionUUID u reason).entry v =
      if v = u then (h.entry u).bind (eraseFlag reason) else h.entry v := by
  rcases hu : h.entry u with _ | i
  · by_cases hv : v = u
    · simp [eraseActionUUID, hu, hv]
    · simp [eraseActionUUID, hu, hv]
  · by_cases hr : (i.erase reason).1
    · simp [eraseActionUUID, eraseFlag, hu, hr]
    · simp [eraseActionUUID, eraseFlag, hu, hr]

lemma entry_setResult (result : JsonText) :
    (h.setResult u result).2.entry v =
      if v = u then (h.entry u).map fun i => (i.setResult result).2 else h.entry v := by
  rcases hu : h.entry u with _ | i
  · by_cases hv : v = u
    · simp [setResult, hu, hv]
    · simp [setResult, hu, hv]
  · simp [setResult, hu]

lemma storeActionRequest_false {h : Handler} {u : UUID} {actionName : Str} {requestId : Nat}
    {actionType : ActionType} {protocol : Protocol} {now : Int}
    (hf : (h.storeActionRequest actionName u requestId actionType protocol now).1 = false) :
    (h.storeActionRequest actionName u requestId actionType protocol now).2 = h := by
  unfold storeActionRequest at hf ⊢
  repeat' split at hf
  all_goals simp_all

/-! The other fields stay as they are. -/

@[simp] lemma requestsId_storeActionRequest (actionName : Str) (requestId : Nat)
    (actionType : ActionType) (protocol : Protocol) (now : Int) :
    (h.storeActionRequest actionName u requestId actionType protocol now).2.requestsId =
      h.requestsId := by
  unfold storeActionRequest
  repeat' split
  all_goals rfl

@[simp] lemma requestsId_eraseActionUUID (reason : ActionEraseReason) :
    (h.eraseActionUUID u reason).requestsId = h.requestsId := by
  unfold eraseActionUUID
  repeat' split
  all_goals rfl

@[simp] lemma requestsId_setResult (result : JsonText) :
    (h.setResult u result).2.requestsId = h.requestsId := by
  unfold setResult
  split <;> rfl

end Handler

/-! ### Runs -/

/-- The state once an identifier has been drawn. -/
def State.draw (s : State) : State :=
  { s with handler := s.handler.nextRequestId.2 }.log [.newRequestId s.handler.nextRequestId.1]

section Run

variable (s : State)

@[simp] lemma draw_entry (u : UUID) : s.draw.handler.entry u = s.handler.entry u := rfl
@[simp] lemma draw_map :
    s.draw.handler.actionRequestIdToUuid = s.handler.actionRequestIdToUuid := rfl
@[simp] lemma draw_schemas : s.draw.handler.schemas = s.handler.schemas := rfl
@[simp] lemma draw_requestsId : s.draw.handler.requestsId = s.handler.nextRequestId.1 := rfl
@[simp] lemma draw_participant : s.draw.participant = s.participant := rfl
@[simp] lemma draw_trace :
    s.draw.trace = s.trace ++ [.newRequestId s.handler.nextRequestId.1] := rfl

@[simp] lemma getNewRequestId_run :
    getNewRequestId.run s = .ok s.handler.nextRequestId.1 s.draw := rfl

@[simp] lemma eraseActionUUID_run (u : UUID) (reason : ActionEraseReason) :
    (eraseActionUUID u reason).run s =
      .ok () ({ s with handler := s.handler.eraseActionUUID u reason }.log
        [.erasedAction u reason]) := rfl

@[simp] lemma setResult_run (u : UUID) (result : JsonText) :
    (setResult u result).run s =
      .ok (s.handler.setResult u result).1
        ({ s with handler := (s.handler.setResult u result).2 }.log [.resultSet u result]) := rfl

variable (env : Env) {actionName : Str} {u : UUID} {requestId : Nat} {actionType : ActionType}
  {protocol : Protocol}

lemma storeActionRequest_run_true
    (h : (s.handler.storeActionRequest actionName u requestId actionType protocol
      env.now).1 = true) :
    (storeActionRequest env actionName u requestId actionType protocol).run s =
      .ok true ({ s with handler := (s.handler.storeActionRequest actionName u requestId
          actionType protocol env.now).2 }.log
        [.storedRequest actionName u requestId actionType protocol env.now]) := by
  simp [storeActionRequest, h]

lemma storeActionRequest_run_false
    (h : (s.handler.storeActionRequest actionName u requestId actionType protocol
      env.now).1 = false) :
    (storeActionRequest env actionName u requestId actionType protocol).run s =
      .ok false s := by
  simp [storeActionRequest, h, Handler.storeActionRequest_false h]

end Run

/-! ### Schemas -/

/-- The event marks the call. -/
def writeSchema (env : Env) (dynType : DynType) (typeId : Nat) : M Unit := do
  emit (.writeSchema dynType.name typeId)
  match ← Exec.lift (env.describeType dynType typeId) with
  | none => pure ()
  | some d => notify env.callbacks.typeNotification (.typeNotification dynType.name d)

/-- The overload of `add_schema_nts_` for a dynamic type. -/
def addSchema (env : Env) (dynType : DynType) (typeId : Nat) (writeSchema : Bool) : M Unit := do
  let known ← readHandler fun h => (h.schemas.lookup dynType.name).isSome
  if known then return ()
  else
    onHandler fun h => ((), { h with schemas := h.schemas.insert dynType.name (typeId, dynType) })
    if writeSchema then
      DdsEnabler.writeSchema env dynType typeId

/-- The overload of `add_schema_nts_` for a type object. -/
def addSchemaOfObject (env : Env) (typeId typeObject : Nat) (writeSchema : Bool) : M Bool :=
  match env.types.createType typeObject with
  | none => return false
  | some dynType => do
    addSchema env dynType typeId writeSchema
    return true

/-- `deserialize_dynamic_type`: only an `InconsistencyException` of the codecs is caught. -/
def deserializeDynamicType (types : TypeSupport) (d : SerializedType) :
    Except Exc (Option (Str × Nat × Nat)) := do
  let typeId ← types.base64Decode d.typeIdentifier
  let typeObject ← types.base64Decode d.typeObject
  match types.deserializeIdentifier typeId with
  | .error .inconsistency => return none
  | .error e => throw e
  | .ok i =>
    match types.deserializeObject typeObject with
    | .error .inconsistency => return none
    | .error e => throw e
    | .ok o => return some (d.typeName, i, o)

/-- The loop of `register_type_nts_`: register the types in order, and keep the last. -/
def registerTypes (types : TypeSupport) :
    List SerializedType → Str × Nat × Nat → M (Option (Str × Nat × Nat))
  | [], last => return some last
  | d :: l, _ => do
    match ← Exec.lift (deserializeDynamicType types d) with
    | none => return none
    | some (name, i, o) =>
      if types.registerTypeObject i o then
        emit (.typeRegistered i)
        registerTypes types l (name, i, o)
      else return none

def registerType (types : TypeSupport) (typeName : Str) (serialized : List UInt8) :
    M (Option (Nat × Nat)) :=
  match types.deserializeDynamicTypes serialized with
  | none => return none
  | some l => do
    match ← registerTypes types l ([], 0, 0) with
    | none => return none
    | some (name, i, o) => return if name ≠ typeName then none else some (i, o)

/-- The type found in the registry, if its schema could be added. -/
def identifierFromRegistry (env : Env) (typeName : Str) : M (Option Nat) :=
  match env.types.getTypeIdentifiers typeName with
  | none => return none
  | some typeId =>
    match env.types.getTypeObject typeId with
    | none => return none
    | some typeObject => do
      return if ← addSchemaOfObject env typeId typeObject true then some typeId else none

/-- The type obtained through the user's type query. -/
def identifierFromQuery (env : Env) (typeName : Str) : M (Option Nat) :=
  match env.callbacks.typeQuery with
  | none => return none
  | some query =>
    match query typeName with
    | none => return none
    | some serialized => do
      match ← registerType env.types typeName serialized with
      | none => return none
      | some (typeId, typeObject) =>
        -- the result of adding the schema is not looked at
        discard <| addSchemaOfObject env typeId typeObject false
        return some typeId

def getTypeIdentifier (env : Env) (typeName : Str) : M (Option Nat) := do
  match ← readHandler fun h => h.schemas.lookup typeName with
  | some (typeId, _) => return some typeId
  | none =>
    match ← identifierFromRegistry env typeName with
    | some typeId => return some typeId
    | none => identifierFromQuery env typeName

/-- Whether a payload of the type could be made from the JSON text. -/
def Handler.getSerializedData (h : Handler) (env : Env) (typeName : Str) (json : JsonText) :
    Bool :=
  match h.schemas.lookup typeName with
  | none => false
  | some (_, dynType) => env.serialize dynType json

end DdsEnabler
