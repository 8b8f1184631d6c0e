import DdsEnabler.Participant

/-!
What an announcement finds out and what it leaves behind in the participant.

Queries ask the user and the type support: they leave the participant as it is. A writer for a
new server simulates an endpoint, and the reader that the discovery thread makes for it is the
one that is found afterwards.
-/

namespace DdsEnabler

open Exec Tables

/-! ### Queries -/

/-- The computation neither asks for the participant nor changes it. -/
def Ignores {α : Type} (x : M α) : Prop :=
  ∀ (s : State) (p : Participant), x.run { s with participant := p } = match x.run s with
    | .ok a t => .ok a { t with participant := p }
    | .error e t => .error e { t with participant := p }

section Ignores

variable {α β : Type}

lemma Ignores.pure (a : α) : Ignores (pure a : M α) := fun _ _ => rfl

lemma Ignores.lift (r : Except Exc α) : Ignores (lift r) := by
  cases r <;> exact fun _ _ => rfl

lemma Ignores.readHandler (f : Handler → α) : Ignores (readHandler f) := fun _ _ => rfl

lemma Ignores.onHandler (f : Handler → α × Handler) : Ignores (onHandler f) := fun _ _ => rfl

lemma Ignores.emit (e : Event) : Ignores (emit e) := fun _ _ => rfl

lemma Ignores.notify (b : Bool) (e : Event) : Ignores (notify b e) := by
  cases b <;> exact fun _ _ => rfl

lemma Ignores.bind {x : M α} {f : α → M β} (hx : Ignores x) (hf : ∀ a, Ignores (f a)) :
    Ignores (x >>= f) := by
  intro s p
  have hs := hx s p
  rcases h : x.run s with ⟨a, t⟩ | ⟨e, t⟩ <;> rw [h] at hs
  · rw [run_bind_ok hs, run_bind_ok h, hf a t p]
  · rw [run_bind_error hs, run_bind_error h]

lemma Ignores.discard {x : M α} (hx : Ignores x) : Ignores (discard x) := by
  intro s p
  rw [run_discard, run_discard, hx s p]
  rcases x.run s with ⟨a, t⟩ | ⟨e, t⟩ <;> rfl

lemma Ignores.ite {c : Prop} [Decidable c] {x y : M α} (hx : Ignores x) (hy : Ignores y) :
    Ignores (if c then x else y) := by
  split
  · exact hx
  · exact hy

lemma Ignores.participant {x : M α} (hx : Ignores x) {s t : State} {a : α}
    (h : x.run s = .ok a t) : t.participant = s.participant := by
  have hs := hx s s.participant
  rw [h] at hs
  simp only [EStateM.Result.ok.injEq, true_and] at hs
  have ht := congrArg State.participant hs
  exact ht

lemma Ignores.after {x : M α} (hx : Ignores x) (s : State) :
    (Exec.after x s).participant = s.participant := by
  have hs := hx s s.participant
  unfold Exec.after
  rcases hrun : x.run s with ⟨a, t⟩ | ⟨e, t⟩ <;> rw [hrun] at hs
  · exact hx.participant hrun
  · simp only [EStateM.Result.error.injEq, true_and] at hs
    have ht := congrArg State.participant hs
    exact ht

lemma Ignores.run {x : M α} (hx : Ignores x) {s t : State} {a : α} (h : x.run s = .ok a t)
    (p : Participant) :
    x.run { s with participant := p } = .ok a { t with participant := p } := by
  rw [hx s p, h]

end Ignores

section Queries

variable (env : Env)

lemma ignores_writeSchema (dynType : DynType) (typeId : Nat) :
    Ignores (writeSchema env dynType typeId) := by
  unfold writeSchema
  refine (Ignores.emit _).bind fun _ => (Ignores.lift _).bind fun d => ?_
  split
  · exact Ignores.pure _
  · exact Ignores.notify _ _

lemma ignores_addSchema (dynType : DynType) (typeId : Nat) (writeSchema : Bool) :
    Ignores (addSchema env dynType typeId writeSchema) := by
  unfold addSchema
  refine (Ignores.readHandler _).bind fun known => Ignores.ite (Ignores.pure _) ?_
  exact (Ignores.onHandler _).bind fun _ =>
    Ignores.ite (ignores_writeSchema env dynType typeId) (Ignores.pure _)

lemma ignores_addSchemaOfObject (typeId typeObject : Nat) (writeSchema : Bool) :
    Ignores (addSchemaOfObject env typeId typeObject writeSchema) := by
  unfold addSchemaOfObject
  split
  · exact Ignores.pure _
  · exact (ignores_addSchema env _ _ _).bind fun _ => Ignores.pure _

lemma ignores_registerTypes (types : TypeSupport) :
    ∀ l last, Ignores (registerTypes types l last)
  | [], _ => Ignores.pure _
  | d :: l, _ => by
    unfold registerTypes
    refine (Ignores.lift _).bind fun r => ?_
    split
    · exact Ignores.pure _
    · refine Ignores.ite ((Ignores.emit _).bind fun _ => ?_) (Ignores.pure _)
      exact ignores_registerTypes types l _

lemma ignores_registerType (types : TypeSupport) (typeName : Str) (serialized : List UInt8) :
    Ignores (registerType types typeName serialized) := by
  unfold registerType
  split
  · exact Ignores.pure _
  · refine (ignores_registerTypes types _ _).bind fun r => ?_
    split
    · exact Ignores.pure _
    · exact Ignores.pure _

lemma ignores_getTypeIdentifier (typeName : Str) :
    Ignores (getTypeIdentifier env typeName) := by
  have hquery : Ignores (identifierFromQuery env typeName) := by
    unfold identifierFromQuery
    split
    · exact Ignores.pure _
    · split
      · exact Ignores.pure _
      · refine (ignores_registerType _ _ _).bind fun r => ?_
        split
        · exact Ignores.pure _
        · exact (ignores_addSchemaOfObject env _ _ _).discard.bind fun _ => Ignores.pure _
  have hregistry : Ignores (identifierFromRegistry env typeName) := by
    unfold identifierFromRegistry
    split
    · exact Ignores.pure _
    · split
      · exact Ignores.pure _
      · exact (ignores_addSchemaOfObject env _ _ _).bind fun b => Ignores.pure _
  unfold getTypeIdentifier
  refine (Ignores.readHandler _).bind fun r => ?_
  split
  · exact Ignores.pure _
  · refine hregistry.bind fun r => ?_
    split
    · exact Ignores.pure _
    · exact hquery

lemma ignores_fillTopicStruct (topicName : Str) (info : TopicInfo) :
    Ignores (fillTopicStruct env topicName info) := by
  unfold fillTopicStruct
  extract_lets qos
  rcases qos with _ | qos
  · exact Ignores.pure _
  · refine (ignores_getTypeIdentifier env _).bind fun r => ?_
    split
    · exact Ignores.pure _
    · exact Ignores.pure _

lemma ignores_fillServiceType (info : ServiceInfo) (service : ServiceDiscovered)
    (protocol : Protocol) : Ignores (fillServiceType env info service protocol) := by
  unfold fillServiceType
  split
  · refine (ignores_fillTopicStruct env _ _).bind fun r => ?_
    split
    · exact Ignores.pure _
    · refine (ignores_fillTopicStruct env _ _).bind fun r => ?_
      split
      · exact Ignores.pure _
      · exact Ignores.ite (Ignores.pure _) (Ignores.pure _)
  · exact Ignores.pure _

lemma ignores_queryService (service : ServiceDiscovered) (protocol : Protocol) :
    Ignores (queryService env service protocol) := by
  unfold queryService
  split
  · exact Ignores.pure _
  · split
    · exact Ignores.pure _
    · exact ignores_fillServiceType env _ _ _

lemma fillTopicStruct_some {topicName : Str} {info : TopicInfo} {topic : DdsTopic} {s t : State}
    (h : (fillTopicStruct env topicName info).run s = .ok (some topic) t) :
    topic.topicName = topicName := by
  unfold fillTopicStruct at h
  extract_lets qos at h
  rcases qos with _ | qos
  · cases h
  · obtain ⟨r, t', -, h⟩ := ok_of_bind h
    rcases r with _ | typeIdentifier
    · cases h
    · cases h
      rfl

end Queries

/-- A service that the enabler is about to serve: both of its topics come from the user. -/
def ServiceDiscovered.queried (serviceName : Str) (protocol : Protocol)
    (request reply : DdsTopic) : ServiceDiscovered :=
  { serviceName, protocol, topicRequest := request, requestDiscovered := true
    topicReply := reply, replyDiscovered := true
    rpcTopic := some ⟨serviceName, request, reply⟩, fullyDiscovered := true
    enablerAsServer := true }

lemma addTopic_both (serviceName : Str) (protocol : Protocol) (request reply : DdsTopic)
    (s : ServiceDiscovered)
    (hs : ((({ serviceName, protocol } : ServiceDiscovered).addTopic request .request).2.addTopic
      reply .reply).2 = s) (hfull : s.fullyDiscovered = true) :
    { s with enablerAsServer := true } = .queried serviceName protocol request reply := by
  subst hs
  by_cases hname : serviceName.isEmpty
  · simp [ServiceDiscovered.addTopic, ServiceDiscovered.complete, hname] at hfull
  · simp [ServiceDiscovered.addTopic, ServiceDiscovered.complete, ServiceDiscovered.queried,
      hname]

lemma fillServiceType_some {env : Env} {info : ServiceInfo} {serviceName : Str}
    {protocol : Protocol} {service : ServiceDiscovered} {s t : State}
    (h : (fillServiceType env info { serviceName, protocol } protocol).run s =
      .ok (some service) t) :
    ∃ request reply, requestTopic protocol serviceName = some request.topicName ∧
      replyTopic protocol serviceName = some reply.topicName ∧
      service = .queried serviceName protocol request reply := by
  unfold fillServiceType at h
  split at h
  · next requestName replyName hrequest hreply =>
    obtain ⟨r, t', hr, h⟩ := ok_of_bind h
    rcases r with _ | request
    · cases h
    · obtain ⟨r', t'', hr', h⟩ := ok_of_bind h
      rcases r' with _ | reply
      · cases h
      · have hreq := fillTopicStruct_some env hr
        have hrep := fillTopicStruct_some env hr'
        refine ⟨request, reply, by rw [hrequest, hreq], by rw [hreply, hrep], ?_⟩
        simp only at h
        generalize hfilled : ((({ serviceName, protocol } : ServiceDiscovered).addTopic request
          .request).2.addTopic reply .reply).2 = filled at h
        rcases hfull : filled.fullyDiscovered
        · simp [hfull] at h
        · rw [if_pos hfull] at h
          cases h
          exact addTopic_both serviceName protocol request reply filled hfilled hfull
  · cases h

lemma queryService_some {env : Env} {serviceName : Str} {protocol : Protocol}
    {service : ServiceDiscovered} {s t : State}
    (h : (queryService env { serviceName, protocol } protocol).run s = .ok (some service) t) :
    t.participant = s.participant ∧
      ∃ request reply, requestTopic protocol serviceName = some request.topicName ∧
        replyTopic protocol serviceName = some reply.topicName ∧
        service = .queried serviceName protocol request reply := by
  refine ⟨(ignores_queryService env _ protocol).participant h, ?_⟩
  unfold queryService at h
  split at h
  · cases h
  · split at h
    · cases h
    · exact fillServiceType_some h

/-! ### Readers and writers -/

section Writers

lemma firstReader_isSome {l : List (Σ _ : TopicKey, Reader)} (h : l ≠ []) :
    (firstReader l).isSome := by
  rcases l with _ | ⟨e, l⟩
  · exact absurd rfl h
  · unfold firstReader
    rcases firstReader l with _ | f
    · rfl
    · by_cases hf : f.1.2 < e.1.2
      · simp [hf]
      · simp [hf]

lemma mem_of_firstReader {l : List (Σ _ : TopicKey, Reader)} {k : TopicKey} {r : Reader}
    (h : firstReader l = some (k, r)) : (⟨k, r⟩ : Σ _ : TopicKey, Reader) ∈ l := by
  induction l generalizing k r with
  | nil => cases h
  | cons e l ih =>
    unfold firstReader at h
    rcases hl : firstReader l with _ | f
    · rw [hl] at h
      cases h
      exact List.mem_cons_self
    · rw [hl] at h
      obtain ⟨k', r'⟩ := f
      simp only at h
      split at h
      · cases h
        exact List.mem_cons_of_mem _ (ih hl)
      · cases h
        exact List.mem_cons_self

variable {p : Participant} {topic : DdsTopic} {r : Reader} {name : Str}

lemma of_lookupReader {k : TopicKey} (h : p.lookupReader name = some (k, r)) :
    p.readers.lookup k = some r ∧ k.1 = name := by
  have hmem := mem_of_firstReader h
  rw [List.mem_filter] at hmem
  exact ⟨mem_entries.mp hmem.1, by simpa using hmem.2⟩

lemma lookupReader_eq_none :
    p.lookupReader name = none ↔ ∀ k, k.1 = name → p.readers.lookup k = none := by
  constructor
  · intro h k hk
    by_contra hne
    obtain ⟨r, hr⟩ := Option.ne_none_iff_exists'.mp hne
    have hmem : (⟨k, r⟩ : Σ _ : TopicKey, Reader) ∈
        p.readers.entries.filter fun e => e.1.1 = name := by
      rw [List.mem_filter]
      exact ⟨mem_entries.mpr hr, by simpa using hk⟩
    have hsome := firstReader_isSome (List.ne_nil_of_mem hmem)
    rw [Participant.lookupReader] at h
    rw [h] at hsome
    cases hsome
  · intro h
    rcases hf : p.lookupReader name with _ | ⟨k, r⟩
    · rfl
    · obtain ⟨hk, hname⟩ := of_lookupReader hf
      rw [h k hname] at hk
      cases hk

lemma lookup_setReader (k : TopicKey) :
    (p.setReader topic r).readers.lookup k =
      if k = topic.key then some r else p.readers.lookup k := lookup_insert _ _ _ _

lemma lookupReader_setReader (topic : DdsTopic) :
    ∃ f, (p.setReader topic r).lookupReader topic.topicName = some f := by
  rcases h : (p.setReader topic r).lookupReader topic.topicName with _ | f
  · have := lookupReader_eq_none.mp h topic.key rfl
    rw [lookup_setReader, if_pos rfl] at this
    cases this
  · exact ⟨f, rfl⟩

/-- The discovery thread makes a reader for the simulated endpoint of a topic. -/
def Env.CreatesReader (env : Env) (topic : DdsTopic) : Prop :=
  env.readerCreated topic = true ∧
    env.isTypeObjectTopic { topic with discoverer := env.id } = false

/-- The participant with a writer for a topic: its endpoint and the reader made for that. -/
def Participant.withWriter (p : Participant) (env : Env) (topic : DdsTopic) : Participant :=
  (p.simulateEndpoint topic).2.setReader { topic with discoverer := env.id }
    (makeReader env (.ofTopic topic.topicName) { topic with discoverer := env.id })

lemma createTopicWriter_run {env : Env} (h : env.CreatesReader topic) (s : State) :
    (createTopicWriter env topic).run s =
      .ok ((s.participant.simulateEndpoint topic).1,
          (s.participant.withWriter env topic).lookupReader topic.topicName)
        { s with participant := s.participant.withWriter env topic } := by
  obtain ⟨hcreated, htype⟩ := h
  have hreader : ∀ t : State, (createReader env { topic with discoverer := env.id }).run t =
      .ok (some (makeReader env (.ofTopic topic.topicName) { topic with discoverer := env.id }))
        { t with
          participant := t.participant.setReader { topic with discoverer := env.id }
            (makeReader env (.ofTopic topic.topicName) { topic with discoverer := env.id }) } := by
    intro t
    simp [createReader, htype]
  simp [createTopicWriter, hcreated, run_discard, hreader, Participant.withWriter]

lemma withWriter_found (p : Participant) (env : Env) (topic : DdsTopic) :
    ∃ f, (p.withWriter env topic).lookupReader topic.topicName = some f :=
  lookupReader_setReader { topic with discoverer := env.id }

@[simp] lemma withWriter_services (p : Participant) (env : Env) (topic : DdsTopic) :
    (p.withWriter env topic).services = p.services := rfl

@[simp] lemma withWriter_actions (p : Participant) (env : Env) (topic : DdsTopic) :
    (p.withWriter env topic).actions = p.actions := rfl

lemma createServiceRequestWriter_run_some {env : Env} {service : ServiceDiscovered} {s : State}
    {f : TopicKey × Reader}
    (hf : s.participant.lookupReader service.topicRequest.topicName = some f) :
    (createServiceRequestWriter env service).run s = .ok none s := by
  simp [createServiceRequestWriter, hf]

lemma createServiceRequestWriter_run_none {env : Env} {service : ServiceDiscovered} {s : State}
    (h : env.CreatesReader service.topicRequest)
    (hf : s.participant.lookupReader service.topicRequest.topicName = none) :
    (createServiceRequestWriter env service).run s =
      .ok (some { service with
          endpointRequest := some (s.participant.simulateEndpoint service.topicRequest).1 })
        { s with participant := s.participant.withWriter env service.topicRequest } := by
  obtain ⟨f, hfound⟩ := withWriter_found s.participant env service.topicRequest
  simp [createServiceRequestWriter, hf, createTopicWriter_run h, hfound]

end Writers

/-! ### Announcing a service -/

section Announce

variable {env : Env} {serviceName : Str} {protocol : Protocol} {s t : State}

lemma announceService_run_found {service : ServiceDiscovered}
    (hf : s.participant.services.find serviceName = some service) :
    (announceService env serviceName protocol).run s =
      if service.enablerAsServer then .ok false s
      else .ok true { s with
        participant := { s.participant with
          services := s.participant.services.set serviceName
            { service with enablerAsServer := true } } } := by
  unfold announceService
  rw [EStateM.run_bind, readParticipant_run, hf]
  rcases h : service.enablerAsServer
  · simp [h, setService]
  · simp [h]

/-- The participant once a queried service has been entered with its writer. -/
def Participant.served (p : Participant) (env : Env) (service : ServiceDiscovered) :
    Participant :=
  { p.withWriter env service.topicRequest with
    services := p.services.insertOrAssign service.serviceName
      { service with
        endpointRequest := some (p.simulateEndpoint service.topicRequest).1 } }

lemma announceService_run_new {service : ServiceDiscovered}
    (hf : s.participant.services.find serviceName = none)
    (hq : (queryService env { serviceName, protocol } protocol).run s = .ok (some service) t)
    (hc : env.CreatesReader service.topicRequest) :
    (announceService env serviceName protocol).run s =
      match s.participant.lookupReader service.topicRequest.topicName with
      | some _ => .ok false t
      | none => .ok true { t with participant := s.participant.served env service } := by
  obtain ⟨hp, request, reply, -, -, hservice⟩ := queryService_some hq
  have hname : service.serviceName = serviceName := by rw [hservice]; rfl
  unfold announceService
  rw [EStateM.run_bind, readParticipant_run, hf]
  simp only [EStateM.run_bind, hq]
  rcases hr : s.participant.lookupReader service.topicRequest.topicName with _ | f
  · have hr' : t.participant.lookupReader service.topicRequest.topicName = none := by rw [hp, hr]
    simp [createServiceRequestWriter_run_none hc hr', insertService, Participant.served, hp,
      hname]
  · have hr' : t.participant.lookupReader service.topicRequest.topicName = some f := by
      rw [hp, hr]
    simp [createServiceRequestWriter_run_some hr']

lemma createServiceRequestWriter_some {service service' : ServiceDiscovered}
    (h : (createServiceRequestWriter env service).run s = .ok (some service') t) :
    ∃ e, service' = { service with endpointRequest := some e } := by
  unfold createServiceRequestWriter at h
  obtain ⟨r, t', -, h⟩ := ok_of_bind h
  rcases r with _ | f
  · obtain ⟨⟨e, r⟩, t'', -, h⟩ := ok_of_bind h
    rcases r with _ | f
    · cases h
    · cases h
      exact ⟨e, rfl⟩
  · cases h

lemma announceService_true (h : (announceService env serviceName protocol).run s = .ok true t) :
    ∃ service, t.participant.services.find serviceName = some service ∧
      service.enablerAsServer = true := by
  rcases hf : s.participant.services.find serviceName with _ | service
  · unfold announceService at h
    rw [EStateM.run_bind, readParticipant_run, hf] at h
    obtain ⟨r, t', hq, h⟩ := ok_of_bind h
    rcases r with _ | service
    · cases h
    · obtain ⟨r, t'', hw, h⟩ := ok_of_bind h
      rcases r with _ | service'
      · cases h
      · obtain ⟨-, request, reply, -, -, hservice⟩ := queryService_some hq
        obtain ⟨e, hservice'⟩ := createServiceRequestWriter_some hw
        cases h
        exact ⟨service', by simp, by rw [hservice', hservice]; rfl⟩
  · rw [announceService_run_found hf] at h
    split at h
    · cases h
    · cases h
      exact ⟨{ service with enablerAsServer := true }, by simp, rfl⟩

end Announce

/-! ### Revoking a service -/

section Revoke

variable (p : Participant)

lemma revokeServiceNts_fst (name : Str) :
    (p.revokeServiceNts name).1 = true ↔ ∃ v, p.services.find name = some v ∧
      v.enablerAsServer = true ∧ v.endpointRequest.isSome = true := by
  unfold Participant.revokeServiceNts
  rcases p.services.find name with _ | v
  · simp
  · rcases hv : v.enablerAsServer
    · simp [hv]
    · rcases he : v.endpointRequest with _ | e
      · simp [hv, he]
      · by_cases hx : v.externalServer
        · simp [hv, he, hx]
        · simp [hv, he, hx]

lemma revokeServiceNts_false {name : Str} (h : (p.revokeServiceNts name).1 = false) :
    (p.revokeServiceNts name).2 = p := by
  unfold Participant.revokeServiceNts at h ⊢
  split
  · rfl
  · next v hf =>
    rw [hf] at h
    simp only at h
    split
    · next e hv he =>
      rw [hv, he] at h
      simp only at h
      split at h
      · cases h
      · cases h
    · rfl

lemma dismantle_services (name : Str) (v : ServiceDiscovered) (e : Endpoint) :
    (p.dismantle name v e).services =
      p.services.set name ({ v with endpointRequest := none }.removeTopic .request) := by
  unfold Participant.dismantle
  extract_lets p'
  split <;> rfl

lemma revokeServiceNts_dismantle {name : Str} {v : ServiceDiscovered} {e : Endpoint}
    (hf : p.services.find name = some v) (hserver : v.enablerAsServer = true)
    (he : v.endpointRequest = some e) (hx : v.externalServer = false) :
    p.revokeServiceNts name = (true, p.dismantle name v e) := by
  simp [Participant.revokeServiceNts, hf, hserver, he, hx]

end Revoke

end DdsEnabler
