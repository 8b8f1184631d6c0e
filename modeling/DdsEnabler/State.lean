import DdsEnabler.RpcStructs
import DdsEnabler.Lib.Exec

/-!
The state of the enabler, what it does to the outside, and what it asks of it.

`Env` collects the answers an operation gets from outside the enabler: the user's callbacks,
the type support, the clock, the discovery thread, and the contents of locals that are read
uninitialised. Every operation takes one, so that each call of a run may find another.
-/

namespace DdsEnabler

open Tables

/-! ### Types and samples -/

/-- A dynamic type: its name and the type object it was built from. -/
structure DynType where
  name : Str
  object : Nat
  deriving DecidableEq

/-- An entry of a persisted collection of types, as base64 texts. -/
structure SerializedType where
  typeName : Str
  typeIdentifier : Str
  typeObject : Str

/-- The registry of types, the type factory, and the codecs of persisted types. -/
structure TypeSupport where
  getTypeIdentifiers : Str → Option Nat
  getTypeObject : Nat → Option Nat
  createType : Nat → Option DynType
  registerTypeObject : Nat → Nat → Bool
  deserializeDynamicTypes : List UInt8 → Option (List SerializedType)
  base64Decode : Str → Except Exc Str
  deserializeIdentifier : Str → Except Exc Nat
  deserializeObject : Str → Except Exc Nat

/-- What is made of a type that is written. A codec that gives nothing throws
`InconsistencyException`. -/
structure TypeWriting where
  /-- The dependencies in the complete `TypeInformation` of a type. -/
  getTypeInformation : Nat → Option (List Nat)
  base64Encode : Str → Str
  serializeIdentifier : Nat → Option Str
  serializeObject : Nat → Option Str
  serializeDynamicTypes : List SerializedType → Option (List UInt8)
  idlSerialize : DynType → Option Str
  /-- An empty sample of the type, as JSON. -/
  jsonSerialize : DynType → Option JsonText

/-- What the user is told of a type beside its name. -/
structure TypeDescription where
  idl : Str
  serializedTypes : List UInt8
  dataPlaceholder : JsonText

/-- A received sample. `relatedSequenceNumber` is the number in the related sample identity,
for the samples that have one. -/
structure Sample where
  payload : List UInt8
  hasOwner : Bool
  sourceTimestamp : Int
  sourceGuidPrefix : Str
  instanceHandle : Str
  isRpc : Bool
  relatedSequenceNumber : Nat

/-! ### State -/

structure Handler where
  schemas : Table Str (Nat × DynType) := ∅
  uniqueSequenceNumber : Nat := 0
  requestsId : Nat := 0
  actionRequestIdToUuid : Table UUID ActionRequestInfo := ∅

/-- A reader of the enabler, an `InternalRpcReader` or a plain `InternalReader`, and what its
`topic()` gives. -/
structure Reader where
  isRpc : Bool
  topic : DdsTopic
  deriving DecidableEq

/-- What topics are told apart by. -/
abbrev TopicKey := Str × Str

structure Participant where
  readers : Table TopicKey Reader := ∅
  services : ServiceMap := {}
  actions : Table Str ActionDiscovered := ∅
  /-- The endpoints in the discovery database that the enabler has simulated. -/
  endpoints : List Endpoint := []
  /-- The guids drawn so far. -/
  nextGuid : Nat := 0

/-- What the enabler does that others can see: the callbacks it calls, with what the internal
ones return, the samples it publishes, and what it does to request identifiers and to the map
of goals; and the calls of `write_schema`. -/
inductive Event
  | writeSchema (typeName : Str) (typeIdentifier : Nat)
  | typeNotification (typeName : Str) (description : TypeDescription)
  | topicNotification (topicName : Str) (info : TopicInfo)
  | dataNotification (topicName : Str) (json : Json) (publishTime : Int)
  | serviceNotification (serviceName : Str) (info : ServiceInfo)
  | serviceRequestNotification (serviceName : Str) (json : Json) (requestId : Nat)
      (publishTime : Int)
  | serviceReplyNotification (serviceName : Str) (json : Json) (requestId : Nat)
      (publishTime : Int)
  | actionNotification (actionName : Str) (info : ActionInfo)
  | actionGoalRequestNotification (actionName : Str) (json : Json) (goalId : UUID)
      (publishTime : Int)
  | actionCancelRequestNotification (actionName : Str) (goalId : UUID) (timestamp : Int)
      (requestId : Nat) (publishTime : Int)
  | actionResultNotification (actionName : Str) (json : Json) (goalId : UUID)
      (publishTime : Int)
  | actionFeedbackNotification (actionName : Str) (json : Json) (goalId : UUID)
      (publishTime : Int)
  | actionStatusNotification (actionName : Str) (goalId : UUID) (statusCode : StatusCode)
      (statusMessage : String) (publishTime : Int)
  | sendActionSendGoalReply (actionName : Str) (requestId : Nat) (accepted : Bool)
  | sendActionGetResultRequest (actionName : Str) (goalId : UUID) (sent : Bool)
  | sendActionGetResultReply (actionName : Str) (goalId : UUID) (reply : JsonText)
      (requestId : Nat) (sent : Bool)
  | published (topicName : Str) (json : JsonText)
  | publishedRpc (topicName : Str) (json : JsonText) (requestId : Nat)
  | newRequestId (requestId : Nat)
  | sentSequenceNumber (requestId : Nat)
  | storedRequest (actionName : Str) (actionId : UUID) (requestId : Nat)
      (actionType : ActionType) (protocol : Protocol) (now : Int)
  | resultSet (actionId : UUID) (result : JsonText)
  | erasedAction (actionId : UUID) (reason : ActionEraseReason)
  | typeRegistered (typeIdentifier : Nat)

structure State where
  handler : Handler := {}
  participant : Participant := {}
  trace : List Event := []

/-- An operation of the enabler. -/
abbrev M := EStateM Exc State

/-! ### Environment -/

/-- The user's callbacks: which are set and, where they answer, what they answer. -/
structure Callbacks where
  typeNotification : Bool
  topicNotification : Bool
  dataNotification : Bool
  serviceNotification : Bool
  serviceRequestNotification : Bool
  serviceReplyNotification : Bool
  actionNotification : Bool
  actionCancelRequestNotification : Bool
  actionResultNotification : Bool
  actionFeedbackNotification : Bool
  actionStatusNotification : Bool
  actionGoalRequestNotification : Option (Str → Json → UUID → Int → Bool)
  typeQuery : Option (Str → Option (List UInt8))
  topicQuery : Option (Str → Option TopicInfo)
  serviceQuery : Option (Str → Option ServiceInfo)
  actionQuery : Option (Str → Option ActionInfo)

/-- An order in which the entries of an `unordered_map` are visited. -/
structure VisitOrder where
  visit : List (Σ _ : UUID, ActionRequestInfo) → List (Σ _ : UUID, ActionRequestInfo)
  perm : ∀ l, (visit l).Perm l

structure Env where
  /-- The identifier of the enabler's participant. -/
  id : Str
  now : Int
  /-- The goal identifier that `generate_UUID` draws. -/
  uuid : UUID
  /-- What the locals hold that are declared without a value. -/
  garbageUuid : UUID
  garbageAccepted : Bool
  callbacks : Callbacks
  types : TypeSupport
  writing : TypeWriting
  /-- A JSON text becomes a payload of the type. -/
  serialize : DynType → JsonText → Bool
  getPayload : Bool
  /-- A payload of the type as JSON. -/
  decode : DynType → List UInt8 → Option Json
  deserializeQos : Str → Option TopicQoS
  /-- The pipe creates a reader for a simulated endpoint before the wait times out. -/
  readerCreated : DdsTopic → Bool
  isTypeObjectTopic : DdsTopic → Bool
  /-- What `topic()` gives for an `InternalReader`. -/
  internalReaderTopic : DdsTopic
  visitOrder : VisitOrder

/-- No callback is set. -/
def Callbacks.unset : Callbacks where
  typeNotification := false
  topicNotification := false
  dataNotification := false
  serviceNotification := false
  serviceRequestNotification := false
  serviceReplyNotification := false
  actionNotification := false
  actionCancelRequestNotification := false
  actionResultNotification := false
  actionFeedbackNotification := false
  actionStatusNotification := false
  actionGoalRequestNotification := none
  typeQuery := none
  topicQuery := none
  serviceQuery := none
  actionQuery := none

/-- Nothing is known and nothing answers: what concrete environments are built from. -/
def Env.silent : Env where
  id := "enabler".toList
  now := 0
  uuid := .null
  garbageUuid := .null
  garbageAccepted := false
  callbacks := .unset
  types := ⟨fun _ => none, fun _ => none, fun _ => none, fun _ _ => false, fun _ => none,
    fun s => .ok s, fun _ => .ok 0, fun _ => .ok 0⟩
  writing := ⟨fun _ => none, fun s => s, fun _ => none, fun _ => none, fun _ => none, fun _ => none,
    fun _ => none⟩
  serialize := fun _ _ => true
  getPayload := true
  decode := fun _ _ => none
  deserializeQos := fun _ => some {}
  readerCreated := fun _ => true
  isTypeObjectTopic := fun _ => false
  internalReaderTopic := {}
  visitOrder := ⟨fun l => l, .refl⟩

/-! ### Elementary operations -/

def emit (e : Event) : M Unit := modify fun s => { s with trace := s.trace ++ [e] }

/-- Call a callback if the user has set it. -/
def notify (isSet : Bool) (e : Event) : M Unit := if isSet then emit e else pure ()

variable {α : Type}

def readHandler (f : Handler → α) : M α := do return f (← get).handler

def onHandler (f : Handler → α × Handler) : M α :=
  modifyGet fun s => ((f s.handler).1, { s with handler := (f s.handler).2 })

def readParticipant (f : Participant → α) : M α := do return f (← get).participant

def onParticipant (f : Participant → α × Participant) : M α :=
  modifyGet fun s => ((f s.participant).1, { s with participant := (f s.participant).2 })

/-- The state with more events in its trace. -/
def State.log (s : State) (es : List Event) : State := { s with trace := s.trace ++ es }

/-- The events of a step. -/
def newEvents (s t : State) : List Event := t.trace.drop s.trace.length

lemma newEvents_eq {s t : State} {es : List Event} (h : t.trace = s.trace ++ es) :
    newEvents s t = es := by
  rw [newEvents, h, List.drop_left]

section Run

variable (s : State)

@[simp] lemma log_handler (es : List Event) : (s.log es).handler = s.handler := rfl
@[simp] lemma log_participant (es : List Event) : (s.log es).participant = s.participant := rfl
@[simp] lemma log_trace (es : List Event) : (s.log es).trace = s.trace ++ es := rfl
@[simp] lemma log_nil : s.log [] = s := by simp [State.log]
@[simp] lemma log_log (es es' : List Event) : (s.log es).log es' = s.log (es ++ es') := by
  simp [State.log]

@[simp] lemma emit_run (e : Event) : (emit e).run s = .ok () (s.log [e]) := rfl

@[simp] lemma notify_true_run (e : Event) : (notify true e).run s = .ok () (s.log [e]) := rfl

@[simp] lemma notify_false_run (e : Event) : (notify false e).run s = .ok () s := rfl

@[simp] lemma readHandler_run (f : Handler → α) :
    (readHandler f).run s = .ok (f s.handler) s := rfl

@[simp] lemma onHandler_run (f : Handler → α × Handler) :
    (onHandler f).run s = .ok (f s.handler).1 { s with handler := (f s.handler).2 } := rfl

@[simp] lemma readParticipant_run (f : Participant → α) :
    (readParticipant f).run s = .ok (f s.participant) s := rfl

@[simp] lemma onParticipant_run (f : Participant → α × Participant) :
    (onParticipant f).run s =
      .ok (f s.participant).1 { s with participant := (f s.participant).2 } := rfl

end Run

/-! ### What the elementary operations keep -/

section Keeps

open Exec

variable {R : State → State → Prop}

lemma Exec.Keeps.emit {e : Event} (h : ∀ s : State, R s (s.log [e])) : Keeps R (emit e) := h

variable [IsPreorder State R]

lemma Exec.Keeps.notify {b : Bool} {e : Event} (h : ∀ s : State, R s (s.log [e])) :
    Keeps R (notify b e) := by
  cases b
  · exact Keeps.pure ()
  · exact h

lemma Exec.Keeps.readHandler (f : Handler → α) : Keeps R (readHandler f) := fun s => refl_of R s

lemma Exec.Keeps.readParticipant (f : Participant → α) : Keeps R (readParticipant f) :=
  fun s => refl_of R s

end Keeps

/-- All that is emitted is of a kind. -/
def Tells (p : Event → Prop) (s t : State) : Prop :=
  ∃ es, t.trace = s.trace ++ es ∧ ∀ e ∈ es, p e

instance (p : Event → Prop) : IsPreorder State (Tells p) where
  refl s := ⟨[], by simp, by simp⟩
  trans s t r := by
    rintro ⟨es, h, hes⟩ ⟨es', h', hes'⟩
    refine ⟨es ++ es', by rw [h', h, List.append_assoc], fun e he => ?_⟩
    rcases List.mem_append.mp he with he | he
    · exact hes e he
    · exact hes' e he

end DdsEnabler
