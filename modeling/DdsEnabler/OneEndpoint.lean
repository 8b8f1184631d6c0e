import DdsEnabler.Calls

/-!
How many endpoints the enabler simulates for a topic.

A reader is looked up before an endpoint is simulated, and in time there is one for it. So a topic
with an endpoint has a reader, and is not simulated again; a revocation takes away both. The reader
of the status topic of an action is looked up under an empty name, so that the status topic is
simulated whatever readers it has.
-/

namespace DdsEnabler

open Exec Runs Tables RpcInfo

/-! ### The invariant -/

/-- Endpoints have different guids, different topics, and readers. The endpoint of a service is
there, is for its request topic, and is not that of another. -/
structure Participant.Covered (p : Participant) : Prop where
  fresh : p.Fresh
  guids : (p.endpoints.map Endpoint.guid).Nodup
  topics : (p.endpoints.map fun e => e.topic.topicName).Nodup
  read : ∀ e ∈ p.endpoints, e.topic.topicName ≠ [] ∧ p.lookupReader e.topic.topicName ≠ none
  readers : ∀ k r, p.readers.lookup k = some r → r.topic.topicName = k.1 ∨ r.topic.topicName = []
  named : ∀ name v, p.services.find name = some v → v.serviceName = name
  entries : ∀ name v e, p.services.find name = some v → v.endpointRequest = some e →
    e ∈ p.endpoints ∧ e.topic.topicName = v.topicRequest.topicName ∧
      v.requestDiscovered = true ∧ v.replyDiscovered = true
  owners : ∀ name name' v v' e, p.services.find name = some v → p.services.find name' = some v' →
    v.endpointRequest = some e → v'.endpointRequest = some e → name = name'

/-- What the invariant says of an entry is the same. -/
structure SameEntry (v v' : ServiceDiscovered) : Prop where
  name : v'.serviceName = v.serviceName
  endpoint : v'.endpointRequest = v.endpointRequest
  topic : v'.topicRequest = v.topicRequest
  request : v'.requestDiscovered = v.requestDiscovered
  reply : v'.replyDiscovered = v.replyDiscovered

section Covered

variable {p : Participant} {env : Env} {topic : DdsTopic} {r : Reader} {name : Str}

lemma covered_start : ({} : Participant).Covered where
  fresh e he := absurd he (List.not_mem_nil)
  guids := List.nodup_nil
  topics := List.nodup_nil
  read e he := absurd he (List.not_mem_nil)
  readers k r h := by simp at h
  named name v h := by simp [ServiceMap.find] at h
  entries name v e h := by simp [ServiceMap.find] at h
  owners name name' v v' e h := by simp [ServiceMap.find] at h

lemma Participant.Covered.withActions (h : p.Covered) (actions : Table Str ActionDiscovered) :
    ({ p with actions } : Participant).Covered :=
  ⟨h.fresh, h.guids, h.topics, h.read, h.readers, h.named, h.entries, h.owners⟩

lemma lookupReader_setReader_ne_none {n : Str} (h : p.lookupReader n ≠ none) :
    (p.setReader topic r).lookupReader n ≠ none := by
  intro hnone
  rw [lookupReader_eq_none] at hnone
  refine h (lookupReader_eq_none.mpr fun k hk => ?_)
  have hk' := hnone k hk
  rw [lookup_setReader] at hk'
  split at hk'
  · cases hk'
  · exact hk'

lemma Participant.Covered.setReader (h : p.Covered)
    (hr : r.topic.topicName = topic.topicName ∨ r.topic.topicName = []) :
    (p.setReader topic r).Covered := by
  refine ⟨h.fresh, h.guids, h.topics, fun e he => ?_, fun k r' hk => ?_, h.named, h.entries,
    h.owners⟩
  · exact ⟨(h.read e he).1, lookupReader_setReader_ne_none (h.read e he).2⟩
  · rw [lookup_setReader] at hk
    split at hk
    · next hkey =>
      cases hk
      subst hkey
      exact hr
    · exact h.readers k r' hk

lemma makeReader_topic (hblank : env.internalReaderTopic.topicName = []) (info : RpcInfo)
    (topic : DdsTopic) : (makeReader env info topic).topic.topicName = topic.topicName ∨
      (makeReader env info topic).topic.topicName = [] := by
  unfold makeReader
  split
  · exact .inl rfl
  · exact .inr hblank

lemma Participant.Covered.withWriter (h : p.Covered)
    (hblank : env.internalReaderTopic.topicName = []) (hname : topic.topicName ≠ [])
    (hnone : p.lookupReader topic.topicName = none) : (p.withWriter env topic).Covered := by
  have hread : ∀ e ∈ (p.withWriter env topic).endpoints,
      e.topic.topicName ≠ [] ∧ (p.withWriter env topic).lookupReader e.topic.topicName ≠ none := by
    intro e he
    rcases List.mem_append.mp he with he | he
    · exact ⟨(h.read e he).1,
        lookupReader_setReader_ne_none (p := (p.simulateEndpoint topic).2) (h.read e he).2⟩
    · rw [List.mem_singleton.mp he]
      obtain ⟨f, hf⟩ := withWriter_found p env topic
      exact ⟨hname, by rw [hf]; simp⟩
  refine ⟨((appends_simulateEndpoint p topic).fresh h.fresh), ?_, ?_, hread, ?_, h.named, ?_,
    h.owners⟩
  · change (List.map _ (p.endpoints ++ [_])).Nodup
    rw [List.map_append, List.nodup_append]
    refine ⟨h.guids, List.nodup_singleton _, fun g hg g' hg' => ?_⟩
    obtain ⟨e, he, rfl⟩ := List.mem_map.mp hg
    have hlt := h.fresh e he
    have hnew : g' = p.nextGuid := List.mem_singleton.mp hg'
    omega
  · change (List.map _ (p.endpoints ++ [_])).Nodup
    rw [List.map_append, List.nodup_append]
    refine ⟨h.topics, List.nodup_singleton _, fun n hn n' hn' heq => ?_⟩
    obtain ⟨e, he, rfl⟩ := List.mem_map.mp hn
    have hnew : n' = topic.topicName := List.mem_singleton.mp hn'
    exact (h.read e he).2 (by rw [heq, hnew, hnone])
  · intro k r' hk
    rw [lookup_withWriter] at hk
    split at hk
    · next hkey =>
      cases hk
      subst hkey
      exact makeReader_topic hblank _ { topic with discoverer := env.id }
    · exact h.readers k r' hk
  · intro n v e hv he
    obtain ⟨hmem, hentry⟩ := h.entries n v e hv he
    exact ⟨List.mem_append_left _ hmem, hentry⟩

lemma Participant.Covered.withService (h : p.Covered) {services : ServiceMap}
    {v : ServiceDiscovered} (hname : v.serviceName = name)
    (hfind : ∀ n, services.find n = if n = name then some v else p.services.find n)
    (hentry : ∀ e, v.endpointRequest = some e → e ∈ p.endpoints ∧
      e.topic.topicName = v.topicRequest.topicName ∧ v.requestDiscovered = true ∧
      v.replyDiscovered = true)
    (howner : ∀ e n v', v.endpointRequest = some e → p.services.find n = some v' →
      v'.endpointRequest = some e → n = name) : ({ p with services } : Participant).Covered := by
  have hcases : ∀ {n v'}, services.find n = some v' →
      n = name ∧ v' = v ∨ n ≠ name ∧ p.services.find n = some v' := by
    intro n v' hv'
    rw [hfind] at hv'
    split at hv'
    · next hn => exact .inl ⟨hn, (Option.some.inj hv').symm⟩
    · next hn => exact .inr ⟨hn, hv'⟩
  refine ⟨h.fresh, h.guids, h.topics, h.read, h.readers, fun n v' hv' => ?_,
    fun n v' e hv' he => ?_, fun n n' v₁ v₂ e h₁ h₂ he₁ he₂ => ?_⟩
  · rcases hcases hv' with ⟨rfl, rfl⟩ | ⟨-, hv'⟩
    · exact hname
    · exact h.named n v' hv'
  · rcases hcases hv' with ⟨rfl, rfl⟩ | ⟨-, hv'⟩
    · exact hentry e he
    · exact h.entries n v' e hv' he
  · rcases hcases h₁ with ⟨rfl, rfl⟩ | ⟨-, h₁⟩ <;> rcases hcases h₂ with ⟨rfl, rfl⟩ | ⟨-, h₂⟩
    · rfl
    · exact (howner e n' v₂ he₁ h₂ he₂).symm
    · exact howner e n v₁ he₂ h₁ he₁
    · exact h.owners n n' v₁ v₂ e h₁ h₂ he₁ he₂

lemma Participant.Covered.set (h : p.Covered) {v v' : ServiceDiscovered}
    (hv : p.services.find name = some v) (hsame : SameEntry v v') :
    ({ p with services := p.services.set name v' } : Participant).Covered := by
  refine h.withService (hsame.name.trans (h.named name v hv)) (fun n => ServiceMap.find_set ..)
    (fun e he => ?_) fun e n v'' he hn he' => ?_
  · rw [hsame.topic, hsame.request, hsame.reply]
    exact h.entries name v e hv (hsame.endpoint ▸ he)
  · exact h.owners n name v'' v e hn hv he' (hsame.endpoint ▸ he)

lemma Participant.Covered.setBare (h : p.Covered) {v : ServiceDiscovered}
    (hname : v.serviceName = name) (hend : v.endpointRequest = none) :
    ({ p with services := p.services.set name v } : Participant).Covered := by
  refine h.withService hname (fun n => ServiceMap.find_set ..) (fun e he => ?_)
    fun e n v' he => ?_
  · rw [hend] at he
    cases he
  · rw [hend] at he
    cases he

lemma Participant.Covered.served (h : p.Covered) {v : ServiceDiscovered}
    (hblank : env.internalReaderTopic.topicName = []) (hname : v.topicRequest.topicName ≠ [])
    (hnone : p.lookupReader v.topicRequest.topicName = none)
    (hrequest : v.requestDiscovered = true) (hreply : v.replyDiscovered = true) :
    (p.served env v).Covered := by
  refine Participant.Covered.withService
    (v := { v with endpointRequest := some (p.simulateEndpoint v.topicRequest).1 })
    (h.withWriter hblank hname hnone) rfl (fun n => ServiceMap.find_insertOrAssign ..)
    (fun e he => ?_) fun e n v' he hn he' => ?_
  · cases he
    exact ⟨List.mem_append_right _ (List.mem_singleton_self _), rfl, hrequest, hreply⟩
  · -- the endpoint is new, so it is that of no other service
    cases he
    have hold := h.fresh _ (h.entries n v' _ hn he').1
    exact absurd hold (lt_irrefl _)

lemma Participant.Covered.fewer (h : p.Covered) {services : ServiceMap}
    (hfind : ∀ n v, services.find n = some v → p.services.find n = some v) :
    ({ p with services } : Participant).Covered :=
  ⟨h.fresh, h.guids, h.topics, h.read, h.readers, fun n v hv => h.named n v (hfind n v hv),
    fun n v e hv => h.entries n v e (hfind n v hv),
    fun n n' v v' e hv hv' => h.owners n n' v v' e (hfind n v hv) (hfind n' v' hv')⟩

lemma Participant.Covered.without (h : p.Covered) (name : Str) : (p.without name).Covered := by
  unfold Participant.without
  split
  · refine h.fewer fun n v hv => ?_
    rw [ServiceMap.find_erase] at hv
    split at hv
    · cases hv
    · exact hv
  · exact h

lemma Participant.Covered.withoutParts (h : p.Covered) (actionName : Str) :
    (p.withoutParts actionName).Covered :=
  ((h.without _).without _).without _

/-! ### Revocations -/

lemma Participant.Covered.endpoint_eq (h : p.Covered) {e e' : Endpoint} (he : e ∈ p.endpoints)
    (he' : e' ∈ p.endpoints) (htopic : e.topic.topicName = e'.topic.topicName) : e = e' :=
  List.inj_on_of_nodup_map h.topics he he' htopic

lemma Participant.Covered.erased (h : p.Covered) {v : ServiceDiscovered} {e : Endpoint}
    (hv : p.services.find name = some v) (he : v.endpointRequest = some e) :
    ({ p with
        endpoints := p.endpoints.filter fun e' => e'.guid ≠ e.guid
        services := p.services.set name
          ({ v with endpointRequest := none }.removeTopic .request) } : Participant).Covered := by
  have hbare := h.setBare (v := { v with endpointRequest := none }.removeTopic .request)
    (h.named name v hv) rfl
  have hsub := List.filter_sublist (p := fun e' : Endpoint => e'.guid ≠ e.guid) (l := p.endpoints)
  refine ⟨fun e' he' => h.fresh e' (List.mem_filter.mp he').1, h.guids.sublist (hsub.map _),
    h.topics.sublist (hsub.map _), fun e' he' => h.read e' (List.mem_filter.mp he').1, h.readers,
    hbare.named, fun n w e' hw he' => ?_, hbare.owners⟩
  obtain ⟨hmem, hentry⟩ := hbare.entries n w e' hw he'
  refine ⟨List.mem_filter.mpr ⟨hmem, ?_⟩, hentry⟩
  have hother : n ≠ name := by
    rintro rfl
    change (ServiceMap.set _ _ _).find n = some w at hw
    rw [ServiceMap.find_set, if_pos rfl] at hw
    cases hw
    cases he'
  have hold : p.services.find n = some w := by
    change (ServiceMap.set _ _ _).find n = some w at hw
    rwa [ServiceMap.find_set, if_neg hother] at hw
  rw [decide_eq_true_eq]
  intro hguid
  have hsame : e' = e :=
    List.inj_on_of_nodup_map h.guids hmem (h.entries name v e hv he).1 hguid
  exact hother (h.owners n name w v e hold hv (hsame ▸ he') he)

lemma Participant.Covered.dismantle (h : p.Covered) {v : ServiceDiscovered} {e : Endpoint}
    (hv : p.services.find name = some v) (he : v.endpointRequest = some e) :
    (p.dismantle name v e).Covered := by
  have herased := h.erased hv he
  obtain ⟨hmem, htopic, -⟩ := h.entries name v e hv he
  unfold Participant.dismantle
  extract_lets p'
  split
  · next k r hreader =>
    obtain ⟨hlookup, hkey⟩ := of_lookupReader hreader
    have hr := h.readers k r hlookup
    refine ⟨herased.fresh, herased.guids, herased.topics, fun e' he' => ?_, fun k' r' hk' => ?_,
      herased.named, herased.entries, herased.owners⟩
    · obtain ⟨hne, hread⟩ := herased.read e' he'
      obtain ⟨hmem', hguid⟩ := List.mem_filter.mp he'
      -- the reader that goes is not for the topic of another endpoint
      have hother : r.topic.topicName ≠ e'.topic.topicName := by
        intro heq
        rcases hr with hr | hr
        · have hsame : e' = e := h.endpoint_eq hmem' hmem (by rw [← heq, hr, hkey, htopic])
          subst hsame
          simp at hguid
        · exact hne (heq.symm.trans hr)
      refine ⟨hne, fun hnone => hread (lookupReader_eq_none.mpr fun k' hk' => ?_)⟩
      have hk'' := lookupReader_eq_none.mp hnone k' hk'
      change (p'.readers.erase r.topic.key).lookup k' = none at hk''
      rwa [lookup_erase, if_neg] at hk''
      rintro rfl
      exact hother hk'
    · change (p'.readers.erase r.topic.key).lookup k' = some r' at hk'
      rw [lookup_erase] at hk'
      split at hk'
      · cases hk'
      · exact herased.readers k' r' hk'
  · exact herased

lemma Participant.Covered.revokeServiceNts (h : p.Covered) (name : Str) :
    (p.revokeServiceNts name).2.Covered := by
  unfold Participant.revokeServiceNts
  split
  · exact h
  · next v hv =>
    split
    · next e hserver he =>
      split
      · exact h.set hv ⟨rfl, rfl, rfl, rfl, rfl⟩
      · exact h.dismantle hv he
    · exact h

lemma Participant.Covered.revokeServices (h : p.Covered) (names : List Str) :
    (p.revokeServices names).2.Covered := by
  induction names generalizing p with
  | nil => exact h
  | cons name names ih =>
    have hfirst := h.revokeServiceNts name
    unfold Participant.revokeServices
    rcases hq : p.revokeServiceNts name with ⟨b, q⟩
    rw [hq] at hfirst
    rcases b
    · exact hfirst
    · exact ih hfirst

lemma Participant.Covered.revokeAction (h : p.Covered) (actionName : Str) :
    (p.revokeAction actionName).2.Covered := by
  unfold Participant.revokeAction
  split
  · exact h
  · split
    · exact h
    · split
      · exact h.withActions _
      · split
        · next goal result cancel _ _ _ =>
          have hrest := h.revokeServices
            [goal.serviceName, result.serviceName, cancel.serviceName]
          rcases hq : p.revokeServices
            [goal.serviceName, result.serviceName, cancel.serviceName] with ⟨b, q⟩
          rw [hq] at hrest
          rcases b
          · exact hrest
          · exact hrest.withActions _
        · exact h

/-! ### Flags and discoveries -/

/-- The services have an entry for the object. -/
def Participant.Lists (p : Participant) (v : ServiceDiscovered) : Prop :=
  ∃ n v', p.services.find n = some v' ∧ SameEntry v v'

/-- The flag of a service that is there is set. -/
def Participant.withFlag (p : Participant) (v : ServiceDiscovered) : Participant :=
  { p with services := p.services.set v.serviceName { v with enablerAsServer := true } }

lemma Participant.Covered.name_eq (h : p.Covered) {n : Str} {v v' : ServiceDiscovered}
    (hv' : p.services.find n = some v') (hsame : SameEntry v v') : n = v.serviceName :=
  (h.named n v' hv').symm.trans hsame.name

lemma Participant.Covered.withFlag (h : p.Covered) {v : ServiceDiscovered} (hv : p.Lists v) :
    (p.withFlag v).Covered := by
  obtain ⟨n, v', hv', hsame⟩ := hv
  have hn := h.name_eq hv' hsame
  subst hn
  exact h.set hv' ⟨hsame.name.symm, hsame.endpoint.symm, hsame.topic.symm, hsame.request.symm,
    hsame.reply.symm⟩

lemma Participant.Lists.withFlag (h : p.Covered) {v w : ServiceDiscovered} (hv : p.Lists v)
    (hw : p.Lists w) : (p.withFlag v).Lists w := by
  obtain ⟨n, v', hv', hsame⟩ := hv
  obtain ⟨m, w', hw', hsame'⟩ := hw
  have hn := h.name_eq hv' hsame
  subst hn
  by_cases hm : m = v.serviceName
  · -- one object under one name
    subst hm
    rw [hv'] at hw'
    cases hw'
    refine ⟨v.serviceName, { v with enablerAsServer := true }, ?_,
      hsame.name.symm.trans hsame'.name, hsame.endpoint.symm.trans hsame'.endpoint,
      hsame.topic.symm.trans hsame'.topic, hsame.request.symm.trans hsame'.request,
      hsame.reply.symm.trans hsame'.reply⟩
    exact (ServiceMap.find_set ..).trans (if_pos rfl)
  · refine ⟨m, w', ?_, hsame'⟩
    exact ((ServiceMap.find_set ..).trans (if_neg hm)).trans hw'

lemma lists_of_lock {w : Option WeakRef} {v : ServiceDiscovered}
    (h : p.services.lock w = some v) : p.Lists v := by
  rcases w with _ | w
  · cases h
  · simp only [ServiceMap.lock] at h
    split at h
    · exact ⟨w.name, v, h, rfl, rfl, rfl, rfl, rfl⟩
    · cases h

lemma Participant.Covered.reannounce (h : p.Covered) {actionName : Str} {a : ActionDiscovered}
    {goal result cancel : ServiceDiscovered} (hgoal : p.services.lock a.goal = some goal)
    (hresult : p.services.lock a.result = some result)
    (hcancel : p.services.lock a.cancel = some cancel) :
    (p.reannounce actionName a goal result cancel).Covered := by
  have h₁ := h.withFlag (lists_of_lock hgoal)
  have hresult₁ := (lists_of_lock hgoal).withFlag h (lists_of_lock hresult)
  have hcancel₁ := (lists_of_lock hgoal).withFlag h (lists_of_lock hcancel)
  have h₂ := h₁.withFlag hresult₁
  exact (h₂.withFlag (hresult₁.withFlag h₁ hcancel₁)).withActions _

lemma Participant.Covered.serviceDiscovered (h : p.Covered) (info : RpcInfo) (topic : DdsTopic) :
    (p.serviceDiscovered info topic).2.Covered := by
  have hset : (p.serviceDiscovered info topic).2 =
      { p with services := (p.serviceDiscovered info topic).2.services } := rfl
  rw [hset, serviceDiscovered_services]
  have hname : ∀ v : ServiceDiscovered,
      (v.discover topic info.serviceType).serviceName = v.serviceName := by
    intro v
    cases info.serviceType <;> (
      simp only [ServiceDiscovered.discover, ServiceDiscovered.addTopic,
        ServiceDiscovered.complete]
      repeat' split
      all_goals simp_all)
  rcases hf : p.services.find info.serviceName with _ | v
  · refine h.setBare (hname _) ?_
    exact (ServiceServers.discover_entry _ topic info.serviceType).2.1
  · obtain ⟨-, hend, hsame⟩ := ServiceServers.discover_entry v topic info.serviceType
    rw [Option.getD_some]
    rcases he : v.endpointRequest with _ | e
    · exact h.setBare ((hname v).trans (h.named _ v hf)) (hend.trans he)
    · obtain ⟨-, -, hrequest, hreply⟩ := h.entries _ v e hf he
      rw [hsame hrequest hreply]
      exact h.set hf ⟨rfl, rfl, rfl, rfl, rfl⟩

lemma Participant.Covered.entered (h : p.Covered) {q : Participant} (hq : EnteredAs topic p q) :
    q.Covered := by
  cases hq with
  | not => exact h
  | service info => exact h.serviceDiscovered info topic
  | action _ =>
    have hservice := h.serviceDiscovered (.ofTopic topic.topicName) topic
    unfold Participant.actionDiscovered Participant.enterTopic
    by_cases hs : (RpcInfo.ofTopic topic.topicName).serviceType ≠ .none
    · simp only [hs, ne_eq, not_false_eq_true, if_true]
      rcases hfound : p.serviceDiscovered (.ofTopic topic.topicName) topic with ⟨discovered, p'⟩
      rw [hfound] at hservice
      rcases discovered
      · exact hservice.withActions _
      · exact hservice.withActions _
    · simp only [hs, if_false]
      exact h.withActions _

lemma createReader_registers (env : Env) (topic : DdsTopic) (s : State) :
    ∃ q, EnteredAs topic s.participant q ∧
      ((after (createReader env topic) s).participant = q ∨
        (after (createReader env topic) s).participant =
          q.setReader topic (makeReader env (.ofTopic topic.topicName) topic)) := by
  unfold createReader
  by_cases htype : env.isTypeObjectTopic topic
  · rw [if_pos htype]
    exact ⟨_, .not, .inl rfl⟩
  · rw [if_neg htype]
    extract_lets info jp
    have hjp : ∀ ok t, EnteredAs topic s.participant t.participant →
        ∃ q, EnteredAs topic s.participant q ∧ ((after (jp ok) t).participant = q ∨
          (after (jp ok) t).participant = q.setReader topic (makeReader env info topic)) := by
      intro ok t ht
      cases ok with
      | true => exact ⟨_, ht, .inr rfl⟩
      | false => exact ⟨_, ht, .inl rfl⟩
    split
    · have hentered := entered_notifyDiscovery topic env s
      refine after_bind (P := fun t => ∃ q, EnteredAs topic s.participant q ∧
        (t.participant = q ∨ t.participant = q.setReader topic (makeReader env info topic)))
        (fun e t h => ⟨_, after_error h ▸ hentered, .inl rfl⟩)
        fun ok t h => hjp ok t (after_ok h ▸ hentered)
    · exact hjp true s .not

lemma Participant.Covered.createReader {s : State} (h : s.participant.Covered)
    (hblank : env.internalReaderTopic.topicName = []) (topic : DdsTopic) :
    (after (createReader env topic) s).participant.Covered := by
  obtain ⟨q, hq, hafter | hafter⟩ := createReader_registers env topic s
  · rw [hafter]
    exact h.entered hq
  · rw [hafter]
    exact (h.entered hq).setReader (makeReader_topic hblank _ topic)

/-! ### Parts -/

/-- A part that may be entered: it has a name, no reader escapes the look-up, and a service has both
of its topics. -/
structure Part.Sound (p : Participant) (part : Part) : Prop where
  name : part.awaited.topicName ≠ []
  vacant : p.lookupReader part.lookedUp = none →
    p.lookupReader part.awaited.topicName = none
  complete : ∀ v, part = .service v → v.requestDiscovered = true ∧ v.replyDiscovered = true

lemma Participant.Covered.enterPart (h : p.Covered) {part : Part}
    (hblank : env.internalReaderTopic.topicName = []) (hsound : part.Sound p)
    (hcreates : p.lookupReader part.lookedUp = none → env.CreatesReader part.awaited) :
    (p.enterPart env part).2.Covered := by
  by_cases hf : p.lookupReader part.lookedUp = none
  · have hnone := hsound.vacant hf
    have hc := hcreates hf
    cases part with
    | service v =>
      obtain ⟨hrequest, hreply⟩ := hsound.complete v rfl
      have hreader : p.lookupReader v.topicRequest.topicName = none := hf
      have hc' : env.CreatesReader v.topicRequest := hc
      simp only [Participant.enterPart, hreader, hc', Option.isSome_none, Bool.false_eq_true,
        if_false, if_true]
      exact h.served hblank hsound.name hreader hrequest hreply
    | topic t lookedUp =>
      have hreader : p.lookupReader lookedUp = none := hf
      have hc' : env.CreatesReader t := hc
      simp only [Participant.enterPart, hreader, Option.isSome_none, Bool.false_eq_true, if_false,
        Participant.awaited, hc', if_true]
      exact h.withWriter hblank hsound.name hnone
  · rw [enterPart_found env hf]
    exact h

/-- What a call has made of the participant: new endpoints, and readers for them. If their readers
are created in time, the invariant holds, and no topic with a reader has been simulated. -/
structure Extends (env : Env) (p q : Participant) : Prop where
  appends : p.Appends q
  reads : ∀ n, p.lookupReader n ≠ none → q.lookupReader n ≠ none
  covered : (∀ e ∈ q.endpoints, e ∉ p.endpoints → env.CreatesReader e.topic) →
    q.Covered ∧ ∀ e ∈ q.endpoints, e ∉ p.endpoints → p.lookupReader e.topic.topicName = none

lemma Extends.of_same {q : Participant} (hq : q.Covered) (hguid : q.nextGuid = p.nextGuid)
    (hends : q.endpoints = p.endpoints) (hreaders : q.readers = p.readers) : Extends env p q where
  appends := .same hguid hends
  reads n hn := by
    rw [Participant.lookupReader, hreaders]
    exact hn
  covered _ := ⟨hq, fun e he hnot => absurd (hends ▸ he) hnot⟩

lemma Extends.enter {q : Participant} {part : Part} (h : Extends env p q) (hfresh : p.Fresh)
    (hblank : env.internalReaderTopic.topicName = []) (hsound : part.Sound q) :
    Extends env p (q.enterPart env part).2 := by
  have happends := appends_enterPart q env part
  refine ⟨h.appends.trans happends, fun n hn => ?_, fun hall => ?_⟩
  · by_cases hname : part.awaited.topicName = n
    · by_cases hf : q.lookupReader part.lookedUp = none
      · exact absurd (hname ▸ hsound.vacant hf) (h.reads n hn)
      · rw [enterPart_found env hf]
        exact h.reads n hn
    · exact fun hnone => h.reads n hn ((lookupReader_enterPart_ne hname).mp hnone)
  · obtain ⟨hcovered, hvacant⟩ := h.covered fun e he => hall e (happends.mem he)
    by_cases hf : q.lookupReader part.lookedUp = none
    · have hends := endpoints_enterPart env hf
      have hnew : (⟨part.awaited, q.nextGuid⟩ : Endpoint) ∉ p.endpoints := by
        intro hmem
        have hlow := hfresh _ hmem
        have hcounts := h.appends.counts
        simp only at hlow
        omega
      refine ⟨hcovered.enterPart hblank hsound fun _ => hall ⟨part.awaited, q.nextGuid⟩ ?_ hnew,
        fun e he hnot => ?_⟩
      · rw [hends]
        exact List.mem_append_right _ (List.mem_singleton_self _)
      · rw [hends] at he
        rcases List.mem_append.mp he with he | he
        · exact hvacant e he hnot
        · rw [List.mem_singleton.mp he]
          by_contra hsome
          exact h.reads _ hsome (hsound.vacant hf)
    · rw [enterPart_found env hf]
      exact ⟨hcovered, hvacant⟩

end Covered

/-! ### The parts of an action -/

/-- The parts that are announced before the status. -/
def firstParts : List ActionType := [.goal, .cancel, .result, .feedback]

/-- The parts are found, and none is in the way; the look-ups lead from one state to the other. -/
def Finds (env : Env) (info : ActionInfo) (actionName : Str) :
    List ActionType → State → State → Prop
  | [], s, u => u = s
  | t :: l, s, u => ∃ part s', (findPart env info actionName t).run s = .ok (some part) s' ∧
      s.participant.Admits env part ∧ Finds env info actionName l s' u

section Actions

variable {env : Env} {info : ActionInfo} {actionName : Str} {s u : State} {q : Participant}
  {l : List ActionType}

lemma finds_cons {t : ActionType} {part : Part} {s' : State}
    (h : (findPart env info actionName t).run s = .ok (some part) s') :
    Finds env info actionName (t :: l) s u ↔
      s.participant.Admits env part ∧ Finds env info actionName l s' u := by
  constructor
  · rintro ⟨part', s'', h', hrest⟩
    rw [h] at h'
    cases h'
    exact hrest
  · exact fun hrest => ⟨part, s', h, hrest⟩

lemma finds_iff (hnodup : l.Nodup) (hl : ∀ t ∈ l, t ≠ .none)
    (hagree : Agrees actionName l s.participant q) (hu : u.participant = s.participant) :
    Finds env info actionName l s u ↔ ∃ q', (announceParts env info actionName l).run
      { s with participant := q } = .ok true { u with participant := q' } := by
  induction l generalizing s q with
  | nil =>
    have hrun : (announceParts env info actionName []).run { s with participant := q } =
        .ok true { s with participant := q } := rfl
    rw [hrun]
    constructor
    · rintro rfl
      exact ⟨q, rfl⟩
    · rintro ⟨q', h⟩
      obtain ⟨handler, participant, trace⟩ := s
      obtain ⟨handler', participant', trace'⟩ := u
      cases hu
      cases h
      rfl
  | cons t l ih =>
    obtain ⟨hnot, hnodup⟩ := List.nodup_cons.mp hnodup
    have ht : t ≠ .none := hl t List.mem_cons_self
    have hl' : ∀ t' ∈ l, t' ≠ .none := fun t' ht' => hl t' (List.mem_cons_of_mem _ ht')
    have hrun := ignores_findPart env info actionName t s q
    rcases h : (findPart env info actionName t).run s with ⟨r, s'⟩ | ⟨e, s'⟩
    · have hs' : s'.participant = s.participant :=
        (ignores_findPart env info actionName t).participant h
      rw [h] at hrun
      rcases r with _ | part
      · refine iff_of_false ?_ ?_
        · rintro ⟨part, s'', h', -⟩
          rw [h] at h'
          cases h'
        · rintro ⟨q', h'⟩
          rw [announceParts_missing hrun] at h'
          cases h'
      · have hadmits : (q.enterPart env part).1 = true ↔ s.participant.Admits env part :=
          enterPart_fst.trans (hagree.admits ht h)
        have hfound := announceParts_found (l := l) hrun
        rw [finds_cons h, ← hadmits, hfound]
        rcases henter : (q.enterPart env part).1
        · simp
        · have hrest := hagree.tail.enter hnot ht hl' h
          rw [← hs'] at hrest
          simp only [if_true, true_and]
          exact ih hnodup hl' hrest (hu.trans hs'.symm)
    · rw [h] at hrun
      refine iff_of_false ?_ ?_
      · rintro ⟨part, s'', h', -⟩
        rw [h] at h'
        cases h'
      · rintro ⟨q', h'⟩
        rw [announceParts_error hrun] at h'
        cases h'

lemma finds_firstParts (hagree : ∀ n, q.lookupReader n = s.participant.lookupReader n)
    (hu : u.participant = s.participant) :
    Finds env info actionName firstParts s u ↔ ∃ q',
      (announceParts env info actionName firstParts).run { s with participant := q } =
        .ok true { u with participant := q' } :=
  finds_iff (by decide) (by simp [firstParts]) (.of_eq hagree) hu

lemma announceParts_announcedParts : announceParts env info actionName announcedParts =
    announceParts env info actionName firstParts >>= fun b =>
      if b then announceParts env info actionName [.status] else pure false :=
  announceParts_append firstParts [.status]

/-- The parts before the status are looked up under their own names. -/
lemma sound_firstPart {t : ActionType} (ht : t ∈ firstParts) {part : Part} {s' : State}
    (h : (findPart env info actionName t).run s = .ok (some part) s') (q : Participant) :
    part.Sound q := by
  have hnone : t ≠ .none := by
    rintro rfl
    simp [firstParts] at ht
  obtain ⟨hawaited, hlooked⟩ := findPart_some env info actionName hnone h
  have hsame : part.lookedUp = part.awaited.topicName := by
    rw [hlooked, hawaited]
    cases t <;> first | rfl | simp [firstParts] at ht
  refine ⟨hawaited ▸ partTopic_ne_nil, fun hf => hsame ▸ hf, fun v hv => ?_⟩
  rcases hs : isServicePart t
  · obtain ⟨topic, -, rfl⟩ :=
      findPart_topic env info actionName (topicPart_of_not hs hnone) h
    cases hv
  · obtain ⟨request, reply, -, rfl⟩ := findPart_service env info actionName hs h
    cases hv
    exact ⟨rfl, rfl⟩

/-- The status topic may be announced if it has no reader, or a nameless one hides it. -/
def StatusFree (env : Env) (info : ActionInfo) (actionName : Str) (s : State) : Prop :=
  ∀ u part u', Finds env info actionName firstParts s u →
    (findPart env info actionName .status).run u = .ok (some part) u' →
    s.participant.lookupReader [] = none →
    s.participant.lookupReader (partTopic actionName .status) = none

variable (info actionName) in
lemma extends_firstParts (hq : Extends env s.participant q)
    (hagree : ∀ n, q.lookupReader n = s.participant.lookupReader n) (hfresh : s.participant.Fresh)
    (hblank : env.internalReaderTopic.topicName = []) :
    Extends env s.participant
        (after (announceParts env info actionName firstParts)
          { s with participant := q }).participant ∧
      Agrees actionName [.status] s.participant
        (after (announceParts env info actionName firstParts)
          { s with participant := q }).participant := by
  refine announceParts_inv (I := fun q => Extends env s.participant q ∧
      Agrees actionName [.status] s.participant q) (fun t ht u u' part h hI => ?_)
    ⟨hq, .of_eq hagree⟩
  refine ⟨hI.1.enter hfresh hblank (sound_firstPart ht h _), hI.2.enter ?_ ?_ (by simp) h⟩
  · rintro hmem
    rw [List.mem_singleton.mp hmem] at ht
    simp [firstParts] at ht
  · rintro rfl
    simp [firstParts] at ht

lemma extends_announceParts (hq : Extends env s.participant q)
    (hagree : ∀ n, q.lookupReader n = s.participant.lookupReader n) (hfresh : s.participant.Fresh)
    (hblank : env.internalReaderTopic.topicName = [])
    (hfree : StatusFree env info actionName s) :
    Extends env s.participant (after (announceParts env info actionName announcedParts)
      { s with participant := q }).participant := by
  obtain ⟨hfirst, hstatus⟩ := extends_firstParts info actionName hq hagree hfresh hblank
  rw [announceParts_announcedParts]
  refine after_bind (P := fun t => Extends env s.participant t.participant)
    (fun e t h => after_error h ▸ hfirst) fun b t h => ?_
  rw [after_ok h] at hfirst hstatus
  rcases b
  · exact hfirst
  · have hfinds : Finds env info actionName firstParts s { t with participant := s.participant } :=
      (finds_firstParts (u := { t with participant := s.participant }) hagree rfl).mpr
        ⟨t.participant, h⟩
    have hrun := ignores_findPart env info actionName .status t s.participant
    change Extends env s.participant
      (after (announceParts env info actionName [.status]) t).participant
    rcases hfind : (findPart env info actionName .status).run t with ⟨r, u⟩ | ⟨e, u⟩
    · have hu : u.participant = t.participant :=
        (ignores_findPart env info actionName .status).participant hfind
      rw [hfind] at hrun
      rcases r with _ | part
      · rw [after_ok (announceParts_missing hfind), hu]
        exact hfirst
      · obtain ⟨topic, htopic, rfl⟩ := findPart_topic env info actionName (.inr rfl) hfind
        have hvacant := hfree _ _ _ hfinds hrun
        have hsound : (Part.topic topic (lookedUpName actionName .status)).Sound
            t.participant := by
          refine ⟨htopic ▸ partTopic_ne_nil, fun hf => ?_, fun v hv => by cases hv⟩
          change t.participant.lookupReader topic.topicName = none
          rw [htopic, hstatus.parts .status (List.mem_singleton_self _)]
          exact hvacant (hstatus.nameless.mp hf)
        have henter := hfirst.enter hfresh hblank hsound
        have hparts := announceParts_found (l := []) hfind
        rw [hu] at hparts
        split at hparts
        · rw [after_congr hparts]
          exact henter
        · rw [after_ok hparts]
          exact henter
    · have hu := (ignores_findPart env info actionName .status).after t
      rw [after_error hfind] at hu
      rw [after_error (announceParts_error hfind), hu]
      exact hfirst

lemma finds_participant (h : Finds env info actionName l s u) : u.participant = s.participant := by
  induction l generalizing s with
  | nil => exact congrArg State.participant h
  | cons t l ih =>
    obtain ⟨part, s', hfind, -, hrest⟩ := h
    exact (ih hrest).trans ((ignores_findPart env info actionName t).participant hfind)

/-- A status topic that is found is simulated whatever readers it has. -/
lemma announceParts_simulates {part : Part} {u' : State} (hq : Extends env s.participant q)
    (hagree : ∀ n, q.lookupReader n = s.participant.lookupReader n) (hfresh : s.participant.Fresh)
    (hblank : env.internalReaderTopic.topicName = [])
    (hfinds : Finds env info actionName firstParts s u)
    (hfind : (findPart env info actionName .status).run u = .ok (some part) u')
    (hnameless : s.participant.lookupReader [] = none) :
    ∃ e ∈ (after (announceParts env info actionName announcedParts)
        { s with participant := q }).participant.endpoints,
      e ∉ s.participant.endpoints ∧ e.topic.topicName = partTopic actionName .status := by
  obtain ⟨hfirst, hstatus⟩ := extends_firstParts info actionName hq hagree hfresh hblank
  obtain ⟨q', hrun⟩ := (finds_firstParts hagree (finds_participant hfinds)).mp hfinds
  rw [after_ok hrun] at hfirst hstatus
  have hfound := ignores_findPart env info actionName .status u q'
  rw [hfind] at hfound
  obtain ⟨hawaited, hlooked⟩ := findPart_some env info actionName (by simp) hfind
  have hnone : q'.lookupReader part.lookedUp = none := by
    rw [hlooked]
    exact hstatus.nameless.mpr hnameless
  have hafter : (after (announceParts env info actionName announcedParts)
      { s with participant := q }).participant = (q'.enterPart env part).2 := by
    have hparts := announceParts_found (l := []) hfound
    rw [announceParts_announcedParts, after_bind_ok hrun]
    change (after (announceParts env info actionName [.status]) _).participant = _
    split at hparts
    · rw [after_congr hparts]
      rfl
    · rw [after_ok hparts]
  refine ⟨⟨part.awaited, q'.nextGuid⟩, ?_, fun hmem => ?_, hawaited⟩
  · rw [hafter, endpoints_enterPart env hnone]
    exact List.mem_append_right _ (List.mem_singleton_self _)
  · have hlow : q'.nextGuid < s.participant.nextGuid := hfresh _ hmem
    have hcounts : s.participant.nextGuid ≤ q'.nextGuid := hfirst.appends.counts
    omega

lemma Extends.withoutParts {p : Participant} (h : Extends env p q) (actionName : Str) :
    Extends env p (q.withoutParts actionName) := by
  refine ⟨h.appends.trans (.same (by simp) (by simp)), fun n hn => ?_, fun hall => ?_⟩
  · rw [lookupReader_withoutParts]
    exact h.reads n hn
  · simp only [withoutParts_endpoints] at hall ⊢
    obtain ⟨hcovered, hvacant⟩ := h.covered hall
    exact ⟨hcovered.withoutParts actionName, hvacant⟩

lemma Extends.withActions {p : Participant} (h : Extends env p q)
    (actions : Table Str ActionDiscovered) : Extends env p { q with actions } :=
  ⟨⟨h.appends.counts, h.appends.endpoints⟩, h.reads, fun hall =>
    ⟨(h.covered hall).1.withActions actions, (h.covered hall).2⟩⟩

lemma extends_announceNewAction (hq : Extends env s.participant q)
    (hagree : ∀ n, q.lookupReader n = s.participant.lookupReader n) (hfresh : s.participant.Fresh)
    (hblank : env.internalReaderTopic.topicName = [])
    (hfree : ∀ info, env.actionInfo actionName = some info → StatusFree env info actionName s) :
    Extends env s.participant (after (announceNewAction env actionName .ros2)
      { s with participant := q }).participant := by
  rcases hinfo : env.actionInfo actionName with _ | info
  · rw [after_ok (announceNewAction_unanswered hinfo _)]
    exact hq
  · have hparts := extends_announceParts (hq.withoutParts actionName)
      (fun n => (lookupReader_withoutParts q n).trans (hagree n)) hfresh hblank (hfree info hinfo)
    obtain ⟨actions, hafter⟩ := participant_announceNewAction hinfo { s with participant := q }
    rw [hafter]
    exact hparts.withActions actions

end Actions

lemma extends_announceAction {env : Env} {actionName : Str} {s : State}
    (h : s.participant.Covered) (hblank : env.internalReaderTopic.topicName = [])
    (hfree : s.participant.AnnouncesAnew actionName → ∀ info,
      env.actionInfo actionName = some info → StatusFree env info actionName s) :
    Extends env s.participant
      (after (announceAction env actionName .ros2) s).participant := by
  have hself : Extends env s.participant s.participant := .of_same h rfl rfl rfl
  by_cases hanew : s.participant.AnnouncesAnew actionName
  · rw [after_congr (announceAction_run_anew hanew env)]
    exact extends_announceNewAction (hself.withActions _) (fun _ => rfl) h.fresh hblank
      (hfree hanew)
  · simp only [Participant.AnnouncesAnew, not_forall] at hanew
    obtain ⟨a, hlookup, hnot⟩ := hanew
    rcases hserver : a.enablerAsServer
    · have hservices : s.participant.HasServices a := by
        by_contra hlost
        exact hnot ⟨hserver, hlost⟩
      obtain ⟨goal, result, cancel, hgoal, hresult, hcancel, hrun⟩ :=
        announceAction_run_valid env hlookup hserver hservices
      rw [after_ok hrun]
      exact .of_same (h.reannounce hgoal hresult hcancel) rfl rfl rfl
    · rw [after_ok (announceAction_run_served hlookup hserver)]
      exact hself

lemma statusFree_of_vacant {env : Env} {info : ActionInfo} {actionName : Str} {s : State}
    (h : s.participant.Covered) (hblank : env.internalReaderTopic.topicName = [])
    (hanew : s.participant.AnnouncesAnew actionName) (hinfo : env.actionInfo actionName = some info)
    (hvacant : ∀ e ∈ (after (announceAction env actionName .ros2) s).participant.endpoints,
      e ∉ s.participant.endpoints → s.participant.lookupReader e.topic.topicName = none) :
    StatusFree env info actionName s := by
  intro u part u' hfinds hfind hnameless
  rw [after_congr (announceAction_run_anew hanew env)] at hvacant
  obtain ⟨actions, hafter⟩ := participant_announceNewAction hinfo { s with
    participant := { s.participant with actions := s.participant.actions.erase actionName } }
  rw [hafter] at hvacant
  have hself : Extends env s.participant s.participant := .of_same h rfl rfl rfl
  have hextends := (hself.withActions (s.participant.actions.erase actionName)).withoutParts
    actionName
  obtain ⟨e, he, hnew, htopic⟩ := announceParts_simulates hextends
    (fun n => lookupReader_withoutParts _ n) h.fresh hblank hfinds hfind hnameless
  exact htopic ▸ hvacant e he hnew

/-! ### The system -/

namespace ParticipantOp

/-- What the call finds around it. -/
def env : ParticipantOp → Option Env
  | .publish env .. | .announceService env .. | .announceAction env .. => some env
  | .createReader env _ => some env
  | _ => none

/-- The call simulates the endpoint. -/
def Simulates (s : State) (op : ParticipantOp) (e : Endpoint) : Prop :=
  e ∈ (step s op).participant.endpoints ∧ e ∉ s.participant.endpoints

/-- A reader is created for every endpoint that the call simulates, and `topic()` of an
`InternalReader` names no topic. -/
def Fits (s : State) (op : ParticipantOp) : Prop :=
  ∀ env, op.env = some env → env.internalReaderTopic.topicName = [] ∧
    ∀ e, Simulates s op e → env.CreatesReader e.topic

/-- No topic has two endpoints, and none has been simulated for a topic with a reader. -/
def OneEndpoint (s : State) (op : ParticipantOp) : Prop :=
  (∀ topicName, ((step s op).participant.endpointsOf topicName).length ≤ 1) ∧
    ∀ e, Simulates s op e → s.participant.lookupReader e.topic.topicName = none

/-- An action that is announced anew as far as its status finds the status topic free. -/
def FindsStatusFree (s : State) : ParticipantOp → Prop
  | .announceAction env actionName protocol => protocol = .ros2 →
      s.participant.AnnouncesAnew actionName → ∀ info, env.actionInfo actionName = some info →
      StatusFree env info actionName s
  | _ => True

variable {s : State}

lemma length_endpointsOf_le {p : Participant} (h : p.Covered) (topicName : Str) :
    (p.endpointsOf topicName).length ≤ 1 := by
  have hsame : (p.endpointsOf topicName).map (fun e => e.topic.topicName) =
      List.replicate (p.endpointsOf topicName).length topicName := by
    refine List.eq_replicate_iff.mpr ⟨List.length_map _, fun n hn => ?_⟩
    obtain ⟨e, he, rfl⟩ := List.mem_map.mp hn
    exact of_decide_eq_true (List.mem_filter.mp he).2
  have hnodup := h.topics.sublist
    ((List.filter_sublist (p := fun e : Endpoint => e.topic.topicName = topicName)
      (l := p.endpoints)).map fun e => e.topic.topicName)
  rw [← List.nodup_replicate (a := topicName), ← hsame]
  exact hnodup

lemma requestTopic_ne_nil {protocol : Protocol} {name topicName : Str}
    (h : requestTopic protocol name = some topicName) : topicName ≠ [] := by
  rintro rfl
  cases protocol with
  | ros2 =>
    have hlen := congrArg List.length (Option.some.inj h)
    rw [List.length_append, List.length_append] at hlen
    have hpre : rosRequestPrefix.length = 3 := rfl
    simp [hpre] at hlen
  | dds =>
    have hlen := congrArg List.length (Option.some.inj h)
    rw [List.length_append, List.length_append] at hlen
    have hsuf : ddsRequestSuffix.length = 8 := rfl
    simp [hsuf] at hlen
  | unknown => cases h

lemma extends_step {op : ParticipantOp} {env : Env} (h : s.participant.Covered)
    (hblank : env.internalReaderTopic.topicName = []) (hfree : FindsStatusFree s op)
    (henv : op.env = some env) (hnot : ∀ topic, op ≠ .createReader env topic) :
    Extends env s.participant (step s op).participant := by
  have hself : Extends env s.participant s.participant := .of_same h rfl rfl rfl
  cases op with
  | publish env' topicName json =>
    cases henv
    refine publish_cases json hself fun topic t hname hf hq => ?_
    have htopic := (queryTopic_some hq).2
    exact hself.enter h.fresh hblank ⟨fun hnil => hname (htopic.symm.trans hnil),
      fun _ => (congrArg _ htopic).trans hf, fun v hv => by cases hv⟩
  | announceService env' serviceName protocol =>
    cases henv
    refine announceService_cases hself (fun v hv => ?_) fun service t hf hq => ?_
    · exact .of_same (h.set hv ⟨rfl, rfl, rfl, rfl, rfl⟩) rfl rfl rfl
    · obtain ⟨-, request, reply, hrequest, -, rfl⟩ := queryService_some hq
      refine hself.enter h.fresh hblank ⟨requestTopic_ne_nil hrequest, fun hf => hf, ?_⟩
      rintro v hv
      cases hv
      exact ⟨rfl, rfl⟩
  | announceAction env' actionName protocol =>
    cases henv
    by_cases hprotocol : protocol = .ros2
    · subst hprotocol
      exact extends_announceAction h hblank (hfree rfl)
    · have hsame : (step s (.announceAction env actionName protocol)).participant =
          s.participant := by
        simp only [step]
        unfold DdsEnabler.announceAction
        rw [if_pos hprotocol]
        rfl
      rw [hsame]
      exact hself
  | createReader env' topic =>
    cases henv
    exact absurd rfl (hnot topic)
  | revokeService serviceName => cases henv
  | revokeAction actionName => cases henv
  | elsewhere handler => cases henv

lemma covered_step (op : ParticipantOp) (h : s.participant.Covered) (hfits : Fits s op)
    (hfree : FindsStatusFree s op) :
    (step s op).participant.Covered ∧
      ∀ e, Simulates s op e → s.participant.lookupReader e.topic.topicName = none := by
  have hextends : ∀ env, op.env = some env → (∀ topic, op ≠ .createReader env topic) →
      (step s op).participant.Covered ∧
        ∀ e, Simulates s op e → s.participant.lookupReader e.topic.topicName = none := by
    intro env henv hnot
    obtain ⟨hblank, hcreates⟩ := hfits env henv
    obtain ⟨hcovered, hvacant⟩ := (extends_step h hblank hfree henv hnot).covered
      fun e he hold => hcreates e ⟨he, hold⟩
    exact ⟨hcovered, fun e he => hvacant e he.1 he.2⟩
  have hsheds : s.participant.Sheds (step s op).participant →
      ∀ e, Simulates s op e → s.participant.lookupReader e.topic.topicName = none :=
    fun hsheds e he => absurd (hsheds.endpoints e he.1) he.2
  cases op with
  | publish env topicName json => exact hextends env rfl nofun
  | announceService env serviceName protocol => exact hextends env rfl nofun
  | announceAction env actionName protocol => exact hextends env rfl nofun
  | revokeService serviceName =>
    exact ⟨h.revokeServiceNts serviceName, hsheds (sheds_revokeServiceNts _ serviceName)⟩
  | revokeAction actionName =>
    exact ⟨h.revokeAction actionName, hsheds (sheds_revokeAction _ actionName)⟩
  | createReader env topic =>
    obtain ⟨hends, hguid⟩ := endpoints_createReader env topic s
    exact ⟨h.createReader (hfits env rfl).1 topic, hsheds ⟨hguid, fun e he => hends ▸ he⟩⟩
  | elsewhere handler => exact ⟨h, hsheds ⟨rfl, fun _ he => he⟩⟩

lemma one_endpoint_step (op : ParticipantOp) (h : s.participant.Covered) (hfits : Fits s op) :
    OneEndpoint s op ↔ FindsStatusFree s op := by
  constructor
  · rintro ⟨-, hvacant⟩
    cases op with
    | announceAction env actionName protocol =>
      rintro rfl hanew info hinfo
      exact statusFree_of_vacant h (hfits env rfl).1 hanew hinfo fun e he hold =>
        hvacant e ⟨he, hold⟩
    | publish env topicName json => trivial
    | announceService env serviceName protocol => trivial
    | revokeService serviceName => trivial
    | revokeAction actionName => trivial
    | createReader env topic => trivial
    | elsewhere handler => trivial
  · intro hfree
    obtain ⟨hcovered, hvacant⟩ := covered_step op h hfits hfree
    exact ⟨length_endpointsOf_le hcovered, hvacant⟩

/-- **A topic has at most one endpoint**, simulated while it has no reader, in a run if and only if
the actions that are announced find their status topics without readers. -/
theorem one_endpoint_iff (handler : Handler) (w : List ParticipantOp)
    (hw : Along step Fits (start handler) w) :
    Along step OneEndpoint (start handler) w ↔ Along step FindsStatusFree (start handler) w :=
  along_iff_of_inv (I := fun s => s.participant.Covered)
    (fun _ op h hfits hfree => (covered_step op h hfits hfree).1)
    (fun _ op h hfits => one_endpoint_step op h hfits) covered_start hw

open ActionServers (actionEnv)

/-- Topics are known to the user as well as actions. -/
def topicEnv : Env :=
  { actionEnv with
    callbacks := { actionEnv.callbacks with topicQuery := some fun _ => some ⟨[], []⟩ } }

def statusTopic : Str := "rt/fibonacci/_action/status".toList

/-- The status of an action is published before the action is announced. -/
def statusOps : List ParticipantOp :=
  [.publish topicEnv statusTopic (.other []), .announceAction topicEnv fibonacciAction .ros2]

lemma topicEnv_fits {op : ParticipantOp} (h : op.env = some topicEnv) : Fits s op := by
  intro env henv
  rw [h] at henv
  cases henv
  exact ⟨rfl, fun _ _ => ⟨rfl, rfl⟩⟩

lemma statusOps_fits : Along step Fits (start {}) statusOps :=
  ⟨topicEnv_fits rfl, topicEnv_fits rfl, trivial⟩

theorem one_endpoint_iff_status :
    Along step OneEndpoint (start {}) statusOps ↔ Along step FindsStatusFree (start {}) statusOps :=
  one_endpoint_iff {} statusOps statusOps_fits

/-- A status topic with a reader is simulated once more when its action is announced. -/
theorem status_simulated_twice :
    Along step Fits (start {}) statusOps ∧ ¬ Along step OneEndpoint (start {}) statusOps := by
  refine ⟨statusOps_fits, ?_⟩
  rintro ⟨-, ⟨hone, -⟩, -⟩
  have htwo : ((run step (start {}) statusOps).participant.endpointsOf statusTopic).length = 2 := by
    decide +kernel
  have hle : ((run step (start {}) statusOps).participant.endpointsOf statusTopic).length ≤ 1 :=
    hone statusTopic
  omega

end ParticipantOp

end DdsEnabler
