import DdsEnabler.Genuine

/-!
The calls of the interface, in the network.

A call from beginning to end is a run of the steps of its party, in which nothing else comes in
between. So a network in which every call is one step is among the networks whose calls are taken
apart, and what holds in all of these holds in it.
-/

namespace DdsEnabler

open Exec Runs RpcUtils

/-! ### Discovery, announcements and types -/

/-- Beside the participant only the schemas change, and only what discovery tells of is told. -/
structure Explores (s t : State) : Prop where
  handler : t.handler = { s.handler with schemas := t.handler.schemas }
  told : Tells (·.isDiscovery) s t

instance : IsPreorder State Explores where
  refl s := ⟨rfl, refl_of (Tells _) s⟩
  trans s t r h h' := ⟨by rw [h'.handler, h.handler], trans_of (Tells _) h.told h'.told⟩

section Explores

lemma explores_notify {e : Event} (h : e.isDiscovery = true) (b : Bool) :
    Keeps Explores (notify b e) :=
  Keeps.notify fun s => ⟨rfl, [e], rfl, by simpa using h⟩

lemma explores_onParticipant {α : Type} (f : Participant → α × Participant) :
    Keeps Explores (onParticipant f) := fun s => ⟨rfl, refl_of (Tells _) s⟩

variable (env : Env)

lemma explores_writeSchema (dynType : DynType) (typeId : Nat) :
    Keeps Explores (writeSchema env dynType typeId) := by
  unfold writeSchema
  refine Keeps.bind (explores_notify rfl true) fun _ => (Keeps.lift _).bind fun d => ?_
  split
  · exact Keeps.pure _
  · exact explores_notify rfl _

lemma explores_addSchema (dynType : DynType) (typeId : Nat) (writeSchema : Bool) :
    Keeps Explores (addSchema env dynType typeId writeSchema) := by
  unfold addSchema
  refine (Keeps.readHandler _).bind fun known => Keeps.ite (Keeps.pure _) ?_
  have hinsert : Keeps Explores (onHandler fun h =>
      ((), { h with schemas := h.schemas.insert dynType.name (typeId, dynType) })) :=
    fun s => ⟨rfl, refl_of (Tells _) s⟩
  exact hinsert.bind fun _ => Keeps.ite (explores_writeSchema env dynType typeId) (Keeps.pure _)

lemma explores_addSchemaOfObject (typeId typeObject : Nat) (writeSchema : Bool) :
    Keeps Explores (addSchemaOfObject env typeId typeObject writeSchema) := by
  unfold addSchemaOfObject
  split
  · exact Keeps.pure _
  · exact (explores_addSchema env _ typeId writeSchema).bind fun _ => Keeps.pure _

lemma explores_registerTypes (types : TypeSupport) (l : List SerializedType)
    (last : Str × Nat × Nat) : Keeps Explores (registerTypes types l last) := by
  induction l generalizing last with
  | nil => exact Keeps.pure _
  | cons d l ih =>
    unfold registerTypes
    refine (Keeps.lift _).bind fun r => ?_
    split
    · exact Keeps.pure _
    · exact Keeps.ite ((explores_notify rfl true).bind fun _ => ih _) (Keeps.pure _)

lemma explores_getTypeIdentifier (typeName : Str) :
    Keeps Explores (getTypeIdentifier env typeName) := by
  have hregistry : Keeps Explores (identifierFromRegistry env typeName) := by
    unfold identifierFromRegistry
    split
    · exact Keeps.pure _
    · split
      · exact Keeps.pure _
      · exact (explores_addSchemaOfObject env _ _ true).bind fun _ => Keeps.pure _
  have hquery : Keeps Explores (identifierFromQuery env typeName) := by
    unfold identifierFromQuery
    split
    · exact Keeps.pure _
    · split
      · exact Keeps.pure _
      · refine Keeps.bind ?_ fun r => ?_
        · unfold registerType
          split
          · exact Keeps.pure _
          · refine (explores_registerTypes env.types _ _).bind fun r => ?_
            split <;> exact Keeps.pure _
        · split
          · exact Keeps.pure _
          · exact (explores_addSchemaOfObject env _ _ false).discard.bind fun _ => Keeps.pure _
  unfold getTypeIdentifier
  refine (Keeps.readHandler _).bind fun known => ?_
  split
  · exact Keeps.pure _
  · refine hregistry.bind fun r => ?_
    split
    · exact Keeps.pure _
    · exact hquery

/-! ### Topics and their writers -/

lemma explores_notifyDiscovery (info : RpcInfo) (topic : DdsTopic) :
    Keeps Explores (notifyDiscovery env info topic) := by
  unfold notifyDiscovery
  split
  · exact (explores_notify rfl _).bind fun _ => Keeps.pure _
  · refine (explores_onParticipant _).bind fun complete => Keeps.ite ?_ (Keeps.pure _)
    refine (Keeps.readParticipant _).bind fun service => ?_
    split
    · exact (explores_notify rfl _).bind fun _ => Keeps.pure _
    · exact Keeps.pure _
  · refine (explores_onParticipant _).bind fun complete => Keeps.ite ?_ (Keeps.pure _)
    refine (Keeps.readParticipant _).bind fun action => ?_
    split
    · exact (explores_notify rfl _).bind fun _ => Keeps.pure _
    · exact Keeps.pure _

lemma explores_createReader (topic : DdsTopic) : Keeps Explores (createReader env topic) := by
  unfold createReader
  refine Keeps.ite (Keeps.pure _) ?_
  refine Keeps.ite ?_ ((Keeps.pure true).bind fun ok => ?_)
  · refine (explores_notifyDiscovery env _ topic).bind fun ok => ?_
    exact Keeps.ite ((explores_onParticipant _).bind fun _ => Keeps.pure _) (Keeps.pure _)
  · exact Keeps.ite ((explores_onParticipant _).bind fun _ => Keeps.pure _) (Keeps.pure _)

lemma explores_createTopicWriter (topic : DdsTopic) :
    Keeps Explores (createTopicWriter env topic) := by
  unfold createTopicWriter
  refine (explores_onParticipant _).bind fun edp => ?_
  have hfind : Keeps Explores (do
      let reader ← readParticipant (·.lookupReader topic.topicName)
      return (edp, reader)) := (Keeps.readParticipant _).bind fun _ => Keeps.pure _
  exact Keeps.ite ((explores_createReader env _).discard.bind fun _ => hfind) hfind

lemma explores_createServiceRequestWriter (service : ServiceDiscovered) :
    Keeps Explores (createServiceRequestWriter env service) := by
  unfold createServiceRequestWriter
  refine (Keeps.readParticipant _).bind fun reader => ?_
  split
  · exact Keeps.pure _
  · refine (explores_createTopicWriter env _).bind fun r => ?_
    split <;> exact Keeps.pure _

/-! ### Queries -/

lemma explores_fillTopicStruct (topicName : Str) (info : TopicInfo) :
    Keeps Explores (fillTopicStruct env topicName info) := by
  unfold fillTopicStruct
  generalize (if info.serializedQos.isEmpty then some {}
    else env.deserializeQos info.serializedQos) = qos
  rcases qos with _ | qos
  · exact Keeps.pure _
  · refine (explores_getTypeIdentifier env _).bind fun r => ?_
    split <;> exact Keeps.pure _

lemma explores_queryTopic (topicName : Str) : Keeps Explores (queryTopic env topicName) := by
  unfold queryTopic
  split
  · exact Keeps.pure _
  · split
    · exact Keeps.pure _
    · exact explores_fillTopicStruct env topicName _

lemma explores_fillServiceType (info : ServiceInfo) (service : ServiceDiscovered)
    (protocol : Protocol) : Keeps Explores (fillServiceType env info service protocol) := by
  unfold fillServiceType
  split
  · refine (explores_fillTopicStruct env _ _).bind fun request => ?_
    split
    · exact Keeps.pure _
    · refine (explores_fillTopicStruct env _ _).bind fun reply => ?_
      split
      · exact Keeps.pure _
      · exact Keeps.ite (Keeps.pure _) (Keeps.pure _)
  · exact Keeps.pure _

lemma explores_announceActionService (info : ServiceInfo) (name : Str) (protocol : Protocol) :
    Keeps Explores (announceActionService env info name protocol) := by
  unfold announceActionService
  refine (explores_fillServiceType env info _ protocol).bind fun r => ?_
  split
  · exact Keeps.pure _
  · refine (explores_createServiceRequestWriter env _).bind fun r => ?_
    split
    · exact Keeps.pure _
    · refine (explores_onParticipant _).bind fun _ => ?_
      exact (Keeps.readParticipant _).bind fun _ => Keeps.pure _

lemma explores_announceActionTopic (info : TopicInfo) (topicName lookedUp : Str) :
    Keeps Explores (announceActionTopic env info topicName lookedUp) := by
  unfold announceActionTopic
  refine (explores_fillTopicStruct env topicName info).bind fun r => ?_
  split
  · exact Keeps.pure _
  · refine (Keeps.readParticipant _).bind fun reader => ?_
    split
    · exact Keeps.pure _
    · refine (explores_createTopicWriter env _).bind fun r => ?_
      split <;> exact Keeps.pure _

lemma explores_queryActionParts (info : ActionInfo) (action : ActionDiscovered)
    (protocol : Protocol) : Keeps Explores (queryActionParts env info action protocol) := by
  unfold queryActionParts
  refine (explores_announceActionService env _ _ protocol).bind fun goal => ?_
  split
  · exact Keeps.pure _
  refine (explores_announceActionService env _ _ protocol).bind fun cancel => ?_
  split
  · exact Keeps.pure _
  refine (explores_announceActionService env _ _ protocol).bind fun result => ?_
  split
  · exact Keeps.pure _
  split
  · exact Keeps.pure _
  refine (explores_announceActionTopic env _ _ _).bind fun feedback => ?_
  split
  · exact Keeps.pure _
  refine (explores_announceActionTopic env _ _ _).bind fun status => ?_
  split <;> exact Keeps.pure _

/-! ### Announcements -/

lemma explores_announceService (serviceName : Str) (protocol : Protocol) :
    Keeps Explores (announceService env serviceName protocol) := by
  unfold announceService
  refine (Keeps.readParticipant _).bind fun found => ?_
  split
  · exact Keeps.ite (Keeps.pure _) ((explores_onParticipant _).bind fun _ => Keeps.pure _)
  · refine Keeps.bind ?_ fun r => ?_
    · unfold queryService
      split
      · exact Keeps.pure _
      · split
        · exact Keeps.pure _
        · exact explores_fillServiceType env _ _ protocol
    · split
      · exact Keeps.pure _
      · refine (explores_createServiceRequestWriter env _).bind fun r => ?_
        split
        · exact Keeps.pure _
        · exact (explores_onParticipant _).bind fun _ => Keeps.pure _

lemma explores_announceNewAction (actionName : Str) (protocol : Protocol) :
    Keeps Explores (announceNewAction env actionName protocol) := by
  unfold announceNewAction
  refine Keeps.bind ?_ fun r => ?_
  · unfold queryAction
    split
    · exact Keeps.pure _
    · split
      · exact Keeps.pure _
      · refine (explores_onParticipant _).bind fun _ => (explores_onParticipant _).bind fun _ => ?_
        exact (explores_onParticipant _).bind fun _ => explores_queryActionParts env _ _ protocol
  · split
    · exact Keeps.pure _
    · exact (explores_onParticipant _).bind fun _ => Keeps.pure _

lemma explores_announceAction (actionName : Str) (protocol : Protocol) :
    Keeps Explores (announceAction env actionName protocol) := by
  unfold announceAction
  refine Keeps.ite (Keeps.pure _) ((Keeps.readParticipant _).bind fun p => ?_)
  have hnew := explores_announceNewAction env actionName protocol
  split
  · exact hnew
  · refine Keeps.ite (Keeps.pure _) ?_
    split
    · exact (explores_onParticipant _).bind fun _ => Keeps.pure _
    · exact (explores_onParticipant _).bind fun _ => hnew

end Explores

/-! ### The calls -/

/-- The calls of the interface, and those that discovery makes. -/
inductive ApiCall
  | publish (env : Env) (topicName : Str) (json : JsonText)
  | announceService (env : Env) (serviceName : Str) (protocol : Protocol)
  | revokeService (serviceName : Str)
  | sendServiceRequest (env : Env) (serviceName : Str) (json : JsonText) (protocol : Protocol)
  | sendServiceReply (env : Env) (serviceName : Str) (json : JsonText) (requestId : Nat)
  | announceAction (env : Env) (actionName : Str) (protocol : Protocol)
  | revokeAction (actionName : Str)
  | sendActionGoal (env : Env) (actionName : Str) (json : JsonText) (protocol : Protocol)
  | cancelActionGoal (env : Env) (actionName : Str) (goalId : UUID) (timestamp : Int)
  | sendActionFeedback (env : Env) (actionName : Str) (json : JsonText) (goalId : UUID)
  | sendActionResult (env : Env) (actionName : Str) (goalId : UUID) (statusCode : StatusCode)
      (json : JsonText)
  | sendActionCancelGoalReply (env : Env) (actionName : Str) (goalIds : List UUID)
      (cancelCode : CancelCode) (requestId : Nat)
  | updateActionStatus (env : Env) (actionName : Str) (goalId : UUID) (statusCode : StatusCode)
  | createReader (env : Env) (topic : DdsTopic)
  | addSchema (env : Env) (dynType : DynType) (typeId : Nat)

namespace ApiCall

/-- The state that the call leaves behind. -/
def perform (s : State) : ApiCall → State
  | .publish env topicName json => after (DdsEnabler.publish env topicName json) s
  | .announceService env serviceName protocol =>
    after (DdsEnabler.announceService env serviceName protocol) s
  | .revokeService serviceName => after (DdsEnabler.revokeService serviceName) s
  | .sendServiceRequest env serviceName json protocol =>
    after (DdsEnabler.sendServiceRequest env serviceName json protocol) s
  | .sendServiceReply env serviceName json requestId =>
    after (DdsEnabler.sendServiceReply env serviceName json requestId) s
  | .announceAction env actionName protocol =>
    after (DdsEnabler.announceAction env actionName protocol) s
  | .revokeAction actionName => after (DdsEnabler.revokeAction actionName) s
  | .sendActionGoal env actionName json protocol =>
    after (DdsEnabler.sendActionGoal env actionName json protocol) s
  | .cancelActionGoal env actionName goalId timestamp =>
    after (DdsEnabler.cancelActionGoal env actionName goalId timestamp) s
  | .sendActionFeedback env actionName json goalId =>
    after (DdsEnabler.sendActionFeedback env actionName json goalId) s
  | .sendActionResult env actionName goalId statusCode json =>
    after (DdsEnabler.sendActionResult env actionName goalId statusCode json) s
  | .sendActionCancelGoalReply env actionName goalIds cancelCode requestId =>
    after (DdsEnabler.sendActionCancelGoalReply env actionName goalIds cancelCode requestId) s
  | .updateActionStatus env actionName goalId statusCode =>
    after (DdsEnabler.updateActionStatus env actionName goalId statusCode) s
  | .createReader env topic => after (DdsEnabler.createReader env topic) s
  | .addSchema env dynType typeId => after (DdsEnabler.addSchema env dynType typeId true) s

/-- The proviso on a party, for a whole call. -/
def Fits (s : State) : ApiCall → Prop
  | .publish _ topicName _ => (RpcInfo.ofTopic topicName).rpcType = .none
  | .sendServiceRequest _ serviceName _ _ => RpcInfo.actionPart serviceName = none
  | .sendServiceReply _ serviceName _ requestId =>
    ∃ json time, .serviceRequestNotification serviceName json requestId time ∈ s.trace
  | .sendActionFeedback _ actionName _ goalId =>
    s.handler.getActionProtocol actionName goalId = .dds → RpcInfo.looksRos actionName = false
  | .updateActionStatus _ actionName goalId statusCode => statusCode.Valid ∧
    (s.handler.getActionProtocol actionName goalId = .dds → RpcInfo.looksRos actionName = false)
  | _ => True

end ApiCall

/-! ### A call as a run -/

namespace Party

variable {ι : Type} {α β : Type}

/-- What the computation does to the party, it can do in steps. -/
def Performs (p : Party ι) (x : M α) : Prop :=
  Reaches Party.act (fun p op => Network.FitsParty p.state op) p
    { p with state := after x p.state }

variable {p : Party ι}

lemma performs_of_same {x : M α} (h : after x p.state = p.state) : p.Performs x := by
  unfold Performs
  rw [h]
  exact .refl p

lemma performs_pure (a : α) : p.Performs (pure a : M α) := performs_of_same rfl

lemma performs_of_step {x : M α} (op : PartyOp) (hfits : Network.FitsParty p.state op)
    (h : p.act op = { p with state := after x p.state }) : p.Performs x := by
  unfold Performs
  rw [← h]
  exact .one hfits

lemma Performs.bind {x : M α} {f : α → M β} (hx : p.Performs x)
    (hf : ∀ a t, x.run p.state = .ok a t → Performs { p with state := t } (f a)) :
    p.Performs (x >>= f) := by
  refine Reaches.trans hx ?_
  rcases h : x.run p.state with ⟨a, t⟩ | ⟨e, t⟩
  · rw [after_bind_ok h, after_ok h]
    exact hf a t h
  · rw [after_error (run_bind_error h), after_error h]
    exact .refl _

lemma performs_of_explores {x : M α} (h : Keeps Explores x) : p.Performs x := by
  have hstep := h p.state
  obtain ⟨notices, htrace, htold⟩ := hstep.told
  refine performs_of_step
    (.others (after x p.state).participant (after x p.state).handler.schemas notices) htold ?_
  change { p with state := State.log _ notices } = _
  congr 1
  generalize after x p.state = t at hstep htrace
  obtain ⟨handler, participant, trace⟩ := t
  cases htrace
  rw [State.log, ← hstep.handler]
  rfl

/-! ### Requests -/

variable {env : Env} {topicName : Str} {json : JsonText}

/-- The request with the next identifier. -/
def next (p : Party ι) (request : Request) (topicName : Str) (json : JsonText) : Outgoing :=
  ⟨request, topicName, json, p.state.handler.nextRequestId.1⟩

lemma reaches_publishRpc (request : Request) (env : Env)
    (hfits : Network.FitsParty p.state (.draw request))
    (hmessage : request.message = .ok json)
    (htopic : requestTopic request.protocol request.serviceName = some topicName) :
    Reaches Party.act (fun p op => Network.FitsParty p.state op) p
      { p with
        state := after (publishRpc env topicName json p.state.handler.nextRequestId.1) p.state.draw
        sent := if p.state.draw.rpcPublishable env topicName json
          then p.sent ++ [p.next request topicName json] else p.sent } := by
  have hdraw : p.act (.draw request) =
      { p with state := p.state.draw, drawn := p.drawn ++ [p.next request topicName json] } := by
    change p.drawRequest request = _
    unfold drawRequest
    rw [hmessage, htopic]
    rfl
  have hpublish : ({ p with
        state := p.state.draw
        drawn := p.drawn ++ [p.next request topicName json] } : Party ι).act
        (.publishRpc env p.drawn.length) =
      { p with
        state := after (publishRpc env topicName json p.state.handler.nextRequestId.1) p.state.draw
        sent := if p.state.draw.rpcPublishable env topicName json
          then p.sent ++ [p.next request topicName json] else p.sent } := by
    change publishDrawn _ env p.drawn.length = _
    unfold publishDrawn
    rw [List.getElem?_concat_length]
    rw [List.eraseIdx_append_of_length_le le_rfl, Nat.sub_self, List.eraseIdx_cons_zero,
      List.append_nil]
    rfl
  refine Reaches.trans (.one hfits) ?_
  rw [hdraw, ← hpublish]
  exact .one trivial

lemma reaches_storeSent (env : Env) (r : Outgoing)
    (h : ∀ actionName json goalId protocol, r.request ≠ .goal actionName json goalId protocol) :
    Reaches Party.act (fun p op => Network.FitsParty p.state op)
      { p with sent := p.sent ++ [r] } p := by
  have hstep : ({ p with sent := p.sent ++ [r] } : Party ι).act (.storeGoal env p.sent.length) =
      p := by
    change storeSent _ env p.sent.length = _
    unfold storeSent
    rw [List.getElem?_concat_length]
    rcases hr : r.request with _ | ⟨actionName, json, goalId, protocol⟩ | _
    · simp [hr, List.eraseIdx_append_of_length_le]
    · exact absurd hr (h actionName json goalId protocol)
    · simp [hr, List.eraseIdx_append_of_length_le]
  conv => arg 4; rw [← hstep]
  exact .one trivial

lemma performs_sendServiceRequest (request : Request) (env : Env)
    (hfits : Network.FitsParty p.state (.draw request)) (hmessage : request.message = .ok json)
    (h : ∀ actionName json goalId protocol, request ≠ .goal actionName json goalId protocol) :
    p.Performs (sendServiceRequest env request.serviceName json request.protocol) := by
  rcases ht : requestTopic request.protocol request.serviceName with _ | topicName
  · refine performs_of_same (after_ok (a := (false, 0)) ?_)
    rw [sendServiceRequest_run, ht]
  · have hafter : after (sendServiceRequest env request.serviceName json request.protocol) p.state =
        after (publishRpc env topicName json p.state.handler.nextRequestId.1) p.state.draw := by
      have hsend := sendServiceRequest_run env request.serviceName json request.protocol p.state
      rw [ht] at hsend
      rw [after_ok (publishRpc_run ..)]
      by_cases hpub : p.state.draw.rpcPublishable env topicName json
      · simp only [hpub, if_true] at hsend ⊢
        exact after_ok hsend
      · simp only [hpub, Bool.false_eq_true, if_false] at hsend ⊢
        exact after_ok hsend
    refine Reaches.trans (reaches_publishRpc request env hfits hmessage ht) ?_
    rw [hafter]
    split
    · exact reaches_storeSent (p := { p with state := _ }) env _ h
    · exact .refl _

lemma performs_storeGoal (env : Env) (actionName : Str) (protocol : Protocol) (json : JsonText)
    (goalJson : Json) (hjson : createGoalRequestMsg json env.uuid = .ok goalJson) :
    p.Performs (do
      let (sent, requestId) ←
        sendServiceRequest env (actionName ++ actionGoalSuffix) (.doc goalJson) protocol
      if sent then return (← storeGoal env actionName env.uuid requestId protocol, env.uuid)
      else return (false, env.uuid)) := by
  have hsend := sendServiceRequest_run env (actionName ++ actionGoalSuffix) (.doc goalJson)
    protocol p.state
  rcases ht : requestTopic protocol (actionName ++ actionGoalSuffix) with _ | topicName
  · rw [ht] at hsend
    refine performs_of_same ?_
    rw [after_bind_ok hsend]
    rfl
  · rw [ht] at hsend
    have hmessage : (Request.goal actionName json env.uuid protocol).message =
        .ok (.doc goalJson) := by
      rw [Request.message, hjson]
      rfl
    refine Reaches.trans (reaches_publishRpc (.goal actionName json env.uuid protocol) env trivial
      hmessage ht) ?_
    rw [after_ok (publishRpc_run ..)]
    by_cases hpub : p.state.draw.rpcPublishable env topicName (.doc goalJson)
    · simp only [hpub, if_true] at hsend ⊢
      rw [after_bind_ok hsend]
      have hstore : ∀ t : State, ({ p with
            state := t
            sent := p.sent ++ [p.next (.goal actionName json env.uuid protocol) topicName
              (.doc goalJson)] } : Party ι).act (.storeGoal env p.sent.length) =
          { p with state := after (do
              return (← storeGoal env actionName env.uuid p.state.handler.nextRequestId.1 protocol,
                env.uuid)) t } := by
        intro t
        change storeSent _ env p.sent.length = _
        unfold storeSent
        rw [List.getElem?_concat_length, after_bind_pure]
        simp [next, List.eraseIdx_append_of_length_le]
      exact hstore _ ▸ Reaches.one trivial
    · simp only [hpub, Bool.false_eq_true, if_false] at hsend ⊢
      rw [after_bind_ok hsend]
      exact .refl _

lemma performs_sendActionGoal (env : Env) (actionName : Str) (json : JsonText)
    (protocol : Protocol) : p.Performs (sendActionGoal env actionName json protocol) := by
  unfold sendActionGoal
  refine Performs.bind (performs_of_explores (Keeps.lift _)) fun goalJson t h => ?_
  rcases hjson : createGoalRequestMsg json env.uuid with e | j
  · rw [hjson] at h
    cases h
  · rw [hjson] at h
    cases h
    exact performs_storeGoal env actionName protocol json goalJson hjson

lemma performs_cancelActionGoal (env : Env) (actionName : Str) (goalId : UUID) (timestamp : Int) :
    p.Performs (cancelActionGoal env actionName goalId timestamp) := by
  unfold cancelActionGoal
  refine Performs.bind (performs_of_explores (Keeps.readHandler _)) fun active t h => ?_
  split
  · exact performs_pure _
  · refine Performs.bind (performs_of_explores (Keeps.readHandler _)) fun protocol t h => ?_
    refine Performs.bind ?_ fun r t h => performs_pure _
    exact performs_sendServiceRequest (.cancel actionName goalId timestamp protocol) env trivial
      rfl (by simp)

/-! ### Samples -/

lemma performs_publish (sample : Publication) (env : Env)
    (htopic : sample.topicName = some topicName) (hmessage : sample.message = .ok json)
    (hfits : ∀ s typeName, Network.FitsParty s (.publishSample env typeName sample)) :
    p.Performs (publish env topicName json) := by
  have hsample : ∀ (p : Party ι) typeName,
      p.Performs (publishSample env topicName typeName json) := by
    intro p typeName
    refine performs_of_step (.publishSample env typeName sample) (hfits p.state typeName) ?_
    change publishTopic p env typeName sample = _
    unfold publishTopic
    rw [htopic, hmessage]
  unfold publish
  split
  · exact performs_pure _
  · refine Performs.bind (performs_of_explores (Keeps.readParticipant _)) fun reader t h => ?_
    split
    · exact hsample _ _
    · refine Performs.bind (performs_of_explores (explores_queryTopic env _)) fun topic t h => ?_
      split
      · exact performs_pure _
      · refine Performs.bind (performs_of_explores (explores_createTopicWriter env _))
          fun r t h => ?_
        split
        · exact performs_pure _
        · exact hsample _ _

lemma performs_sendActionFeedback (env : Env) (actionName : Str) (json : JsonText) (goalId : UUID)
    (hros : p.state.handler.getActionProtocol actionName goalId = .dds →
      RpcInfo.looksRos actionName = false) :
    p.Performs (sendActionFeedback env actionName json goalId) := by
  unfold sendActionFeedback
  refine Performs.bind (performs_of_explores (Keeps.readHandler _)) fun active t h => ?_
  cases h
  split
  · refine Performs.bind (performs_of_explores (Keeps.readHandler _)) fun protocol t h => ?_
    cases h
    split
    · exact performs_pure _
    · next pre hpre =>
      refine Performs.bind (performs_of_explores (Keeps.lift _)) fun feedbackJson t h => ?_
      rcases hjson : createFeedbackMsg json goalId with e | j
      · rw [hjson] at h
        cases h
      · rw [hjson] at h
        cases h
        refine performs_publish (.feedback actionName json goalId
          (p.state.handler.getActionProtocol actionName goalId)) env ?_ ?_ fun s typeName => hros
        · rw [Publication.topicName, hpre]
          rfl
        · rw [Publication.message, hjson]
          rfl
  · exact performs_pure _

lemma performs_updateActionStatus (env : Env) (actionName : Str) (goalId : UUID)
    {statusCode : StatusCode} (hvalid : statusCode.Valid)
    (hros : p.state.handler.getActionProtocol actionName goalId = .dds →
      RpcInfo.looksRos actionName = false) :
    p.Performs (updateActionStatus env actionName goalId statusCode) := by
  unfold updateActionStatus
  refine Performs.bind (performs_of_explores (Keeps.readHandler _)) fun stamp t h => ?_
  cases h
  split
  · exact performs_pure _
  · next goalAcceptedStamp hstamp =>
    refine Performs.bind (performs_of_explores (Keeps.readHandler _)) fun protocol t h => ?_
    cases h
    split
    · exact performs_pure _
    · next pre hpre =>
      refine performs_publish (.status actionName goalId statusCode goalAcceptedStamp
        (p.state.handler.getActionProtocol actionName goalId)) env ?_ rfl
        fun s typeName => ⟨hvalid, hros⟩
      rw [Publication.topicName, hpre]
      rfl

lemma reaches_perform (p : Party ι) (c : ApiCall) (hfits : c.Fits p.state) :
    Reaches Party.act (fun p op => Network.FitsParty p.state op) p
      { p with state := c.perform p.state } := by
  cases c with
  | publish env topicName json =>
    exact performs_publish (.topic topicName json) env rfl rfl fun s typeName => hfits
  | announceService env serviceName protocol =>
    exact performs_of_explores (explores_announceService env serviceName protocol)
  | revokeService serviceName =>
    exact performs_of_explores (x := revokeService serviceName) (explores_onParticipant _)
  | sendServiceRequest env serviceName json protocol =>
    exact performs_sendServiceRequest (.service serviceName json protocol) env hfits rfl (by simp)
  | sendServiceReply env serviceName json requestId =>
    exact performs_of_step (.sendServiceReply env serviceName json requestId) hfits rfl
  | announceAction env actionName protocol =>
    exact performs_of_explores (explores_announceAction env actionName protocol)
  | revokeAction actionName =>
    exact performs_of_explores (x := revokeAction actionName) (explores_onParticipant _)
  | sendActionGoal env actionName json protocol =>
    exact performs_sendActionGoal env actionName json protocol
  | cancelActionGoal env actionName goalId timestamp =>
    exact performs_cancelActionGoal env actionName goalId timestamp
  | sendActionFeedback env actionName json goalId =>
    exact performs_sendActionFeedback env actionName json goalId hfits
  | sendActionResult env actionName goalId statusCode json =>
    exact performs_of_step (.sendActionResult env actionName goalId statusCode json) trivial rfl
  | sendActionCancelGoalReply env actionName goalIds cancelCode requestId =>
    exact performs_of_step (.sendActionCancelGoalReply env actionName goalIds cancelCode requestId)
      trivial rfl
  | updateActionStatus env actionName goalId statusCode =>
    exact performs_updateActionStatus env actionName goalId hfits.1 hfits.2
  | createReader env topic => exact performs_of_explores (explores_createReader env topic)
  | addSchema env dynType typeId =>
    exact performs_of_explores (explores_addSchema env dynType typeId true)

end Party

/-! ### Networks of whole calls -/

inductive CallOp (ι : Type)
  | call (i : ι) (c : ApiCall)
  | deliver (sender receiver : ι) (number : Nat) (env : Env) (topic : DdsTopic) (data : Sample)

namespace Network

variable {ι : Type} [DecidableEq ι]

/-- A call, or a sample that is received, is one step. -/
def wholeStep (N : Network ι) : CallOp ι → Network ι
  | .call i c => Function.update N i { N i with state := c.perform (N i).state }
  | .deliver sender receiver number env topic data =>
    N.step (.deliver sender receiver number env topic data)

def WholeFits (N : Network ι) : CallOp ι → Prop
  | .call i c => c.Fits (N i).state
  | .deliver sender receiver number env topic data =>
    N.Fits (.deliver sender receiver number env topic data)

lemma reaches_update (N : Network ι) (i : ι) {p : Party ι}
    (h : Reaches Party.act (fun p op => FitsParty p.state op) (N i) p) :
    Reaches step Fits N (Function.update N i p) := by
  have hlift : Reaches step Fits (Function.update N i (N i)) (Function.update N i p) :=
    h.map (Function.update N i) (NetOp.act i) (fun p op => by simp [step])
      fun p op hfits => by simpa [Fits] using hfits
  rwa [Function.update_eq_self] at hlift

lemma reaches_wholeStep (N : Network ι) (op : CallOp ι) (hfits : N.WholeFits op) :
    Reaches step Fits N (N.wholeStep op) := by
  cases op with
  | call i c => exact reaches_update N i (Party.reaches_perform (N i) c hfits)
  | deliver sender receiver number env topic data =>
    have hone : N.Fits (.deliver sender receiver number env topic data) := hfits
    exact .one hone

/-- Every network of whole calls is one of calls that are taken apart: what a run of them leads to,
a run of the pieces leads to, which meets the provisos. -/
theorem whole_calls_reached {w : List (CallOp ι)} (hw : Along wholeStep WholeFits start w) :
    Reaches (step (ι := ι)) Fits start (run wholeStep start w) :=
  Reaches.of_run reaches_wholeStep hw

/-! ### A service that is discovered and called -/

def sumRequestTopic : DdsTopic := { topicName := "rq/add_two_intsRequest".toList }
def sumReplyTopic : DdsTopic := { topicName := "rr/add_two_intsReply".toList }

/-- What `hears` delivers, in a network of whole calls. -/
def hearsWhole (sender : Bool) (number : Nat) (topic : DdsTopic) (related : Nat) (doc : Json) :
    CallOp Bool :=
  .deliver sender (!sender) number
    { Env.silent with callbacks := listening, decode := fun _ _ => some doc } topic
    ⟨[0], true, 0, [], [], true, related⟩

/-- Both parties discover the service. The client, which is the party `true`, calls it, and the
other one replies. -/
def sumCalls : List (CallOp Bool) :=
  [.call true (.addSchema .silent ⟨[], 0⟩ 0), .call false (.addSchema .silent ⟨[], 0⟩ 0),
    .call true (.createReader .silent sumRequestTopic),
    .call true (.createReader .silent sumReplyTopic),
    .call false (.createReader .silent sumRequestTopic),
    .call false (.createReader .silent sumReplyTopic),
    .call true (.sendServiceRequest .silent sumService (.doc (.arr [.int 1, .int 2])) .ros2),
    hearsWhole true 1 sumRequestTopic 0 (.arr [.int 1, .int 2]),
    .call false (.sendServiceReply .silent sumService (.doc (.int 3)) 1),
    hearsWhole false 1 sumReplyTopic 1 (.int 3)]

theorem whole_calls_reached_sumCalls : Reaches step Fits start (run wholeStep start sumCalls) :=
  whole_calls_reached ⟨trivial, trivial, trivial, trivial, trivial, trivial, rfl,
    ⟨.arr [.int 1, .int 2], List.mem_of_getElem? (i := 2) rfl, fun _ _ _ => rfl⟩,
    ⟨_, _, List.mem_of_getElem? (i := 3) rfl⟩,
    ⟨.int 3, ⟨List.mem_of_getElem? (i := 4) rfl, List.mem_of_getElem? (i := 0) rfl⟩,
      fun _ _ _ => rfl⟩, trivial⟩

end Network

end DdsEnabler
