import DdsEnabler.Servers
import DdsEnabler.Lib.Registries
import DdsEnabler.Lib.Runs

/-!
The services that the enabler serves, as a registry of names.

An announced service has the flag `enabler_as_server`, and unless it was announced over a
service of others also an endpoint. A revocation asks for both and takes the endpoint away, but
not the flag. So the answers are those of a registry until a name that was revoked is announced
again, or one that was announced over a discovered service is revoked.
-/

namespace DdsEnabler

open Exec Runs Registries

/-! ### What the operations do to the services -/

def SameParticipant (s t : State) : Prop := t.participant = s.participant

instance : IsPreorder State SameParticipant where
  refl _ := rfl
  trans _ _ _ h h' := h'.trans h

section Services

variable (p : Participant) (info : RpcInfo) (topic : DdsTopic)

/-- A service with a topic that is discovered for it. -/
def ServiceDiscovered.discover (v : ServiceDiscovered) (topic : DdsTopic) (ty : ServiceType) :
    ServiceDiscovered :=
  if (v.addTopic topic ty).1 then { (v.addTopic topic ty).2 with externalServer := true }
  else (v.addTopic topic ty).2

lemma serviceDiscovered_services :
    (p.serviceDiscovered info topic).2.services = p.services.set info.serviceName
      (((p.services.find info.serviceName).getD
        { serviceName := info.serviceName, protocol := info.protocol }).discover topic
          info.serviceType) := rfl

/-- A discovery enters its topic in the services, or leaves them as they are. -/
def Discovers (p q : Participant) : Prop :=
  q.services = p.services ∨
    ∃ info topic, q.services = (p.serviceDiscovered info topic).2.services

lemma discovers_actionDiscovered : Discovers p (p.actionDiscovered info topic).2 := by
  unfold Participant.actionDiscovered Participant.enterTopic
  by_cases hs : info.serviceType ≠ .none
  · refine .inr ⟨info, topic, ?_⟩
    simp only [hs, ne_eq, not_false_eq_true, if_true]
    split <;> rfl
  · refine .inl ?_
    simp only [hs, if_false]

lemma keeps_addService (env : Env) (service : RpcTopic) :
    Keeps SameParticipant (addService env service) := Keeps.notify fun _ => rfl

lemma keeps_addAction (env : Env) (action : RpcAction) :
    Keeps SameParticipant (addAction env action) := Keeps.notify fun _ => rfl

/-- A topic is entered in the maps: not at all, as that of a service, or as that of an action. -/
inductive EnteredAs (topic : DdsTopic) (p : Participant) : Participant → Prop
  | not : EnteredAs topic p p
  | service (info : RpcInfo) : EnteredAs topic p (p.serviceDiscovered info topic).2
  | action (h : (RpcInfo.ofTopic topic.topicName).rpcType = .action) :
      EnteredAs topic p (p.actionDiscovered (.ofTopic topic.topicName) topic).2

lemma EnteredAs.discovers {p q : Participant} (h : EnteredAs topic p q) : Discovers p q := by
  cases h with
  | not => exact .inl rfl
  | service info => exact .inr ⟨info, topic, rfl⟩
  | action _ => exact discovers_actionDiscovered p _ topic

lemma entered_notifyDiscovery (env : Env) (s : State) :
    EnteredAs topic s.participant
      (after (notifyDiscovery env (.ofTopic topic.topicName) topic) s).participant := by
  unfold notifyDiscovery
  split
  · have hkeeps : Keeps SameParticipant (do addTopic env topic; return true) :=
      Keeps.bind (Keeps.notify fun _ => rfl) fun _ => Keeps.pure _
    rw [hkeeps s]
    exact .not
  · rw [after_bind_ok (onParticipant_run s _)]
    refine (congrArg (EnteredAs topic s.participant)
      ((?_ : Keeps SameParticipant _) { s with participant := _ })).mpr (.service _)
    refine Keeps.ite ((Keeps.readParticipant _).bind fun r => ?_) (Keeps.pure _)
    split
    · exact (keeps_addService env _).bind fun _ => Keeps.pure _
    · exact Keeps.pure _
  · next haction =>
    rw [after_bind_ok (onParticipant_run s _)]
    refine (congrArg (EnteredAs topic s.participant)
      ((?_ : Keeps SameParticipant _) { s with participant := _ })).mpr (.action haction)
    refine Keeps.ite ((Keeps.readParticipant _).bind fun r => ?_) (Keeps.pure _)
    split
    · exact (keeps_addAction env _).bind fun _ => Keeps.pure _
    · exact Keeps.pure _

lemma after_createReader {P : State → Prop} (env : Env) (s : State)
    (hpass : ¬ (env.isTypeObjectTopic topic = false ∧ topic.discoverer ≠ env.id) → P s)
    (hfound : env.isTypeObjectTopic topic = false ∧ topic.discoverer ≠ env.id →
      P (after (notifyDiscovery env (.ofTopic topic.topicName) topic) s))
    (hreaders : ∀ t readers, P t → P { t with participant := { t.participant with readers } }) :
    P (after (createReader env topic) s) := by
  unfold createReader
  by_cases htype : env.isTypeObjectTopic topic
  · rw [if_pos htype]
    exact hpass (by simp [htype])
  · rw [if_neg htype]
    extract_lets info jp
    have hjp : ∀ ok t, P t → P (after (jp ok) t) := by
      intro ok t ht
      cases ok with
      | true => exact hreaders t _ ht
      | false => exact ht
    split
    · next hdisc =>
      have hentered := hfound ⟨by simpa using htype, hdisc⟩
      exact after_bind (fun e t h => after_error h ▸ hentered)
        fun ok t h => hjp ok t (after_ok h ▸ hentered)
    · next hdisc => exact hjp true s (hpass fun h => hdisc h.2)

lemma entered_createReader (env : Env) (s : State) :
    ∃ q readers, EnteredAs topic s.participant q ∧
      (after (createReader env topic) s).participant = { q with readers } := by
  refine after_createReader topic
    (P := fun t => ∃ q readers, EnteredAs topic s.participant q ∧
      t.participant = { q with readers }) env s (fun _ => ⟨_, _, .not, rfl⟩)
    (fun _ => ⟨_, _, entered_notifyDiscovery topic env s, rfl⟩) ?_
  rintro t readers ⟨q, readers', hq, ht⟩
  exact ⟨q, readers, hq, by rw [ht]⟩

lemma discovers_createReader (env : Env) (s : State) :
    Discovers s.participant (after (createReader env topic) s).participant := by
  obtain ⟨q, readers, hq, hafter⟩ := entered_createReader topic env s
  rw [hafter]
  exact hq.discovers

end Services

/-! ### The system -/

/-- The enabler and the names it has announced and not revoked, by its own answers. `revoked`
are the names it has revoked, and `onTop` those it has announced over a service that was
there. -/
structure ServiceServers where
  state : State
  announced : Finset Str := ∅
  revoked : Finset Str := ∅
  onTop : Finset Str := ∅

inductive ServiceOp
  | announceService (env : Env) (serviceName : Str) (protocol : Protocol)
  | revokeService (serviceName : Str)
  | createReader (env : Env) (topic : DdsTopic)

namespace ServiceServers

/-- The service under a name. -/
def find (s : ServiceServers) (name : Str) : Option ServiceDiscovered :=
  s.state.participant.services.find name

def step (s : ServiceServers) : ServiceOp → ServiceServers
  | .announceService env name protocol =>
    let b := returned (announceService env name protocol) s.state
    { s with
      state := after (announceService env name protocol) s.state
      announced := record s.announced (.add name) b
      onTop := if b && (s.find name).isSome then insert name s.onTop else s.onTop }
  | .revokeService name =>
    let b := returned (DdsEnabler.revokeService name) s.state
    { s with
      state := after (DdsEnabler.revokeService name) s.state
      announced := record s.announced (.remove name) b
      revoked := if b then insert name s.revoked else s.revoked }
  | .createReader env topic => { s with state := after (DdsEnabler.createReader env topic) s.state }

/-- Queries and the creation of readers succeed. -/
def Fits (s : ServiceServers) : ServiceOp → Prop
  | .announceService env serviceName protocol => s.find serviceName = none → ∃ service t,
      (queryService env { serviceName, protocol } protocol).run s.state = .ok (some service) t ∧
        env.CreatesReader service.topicRequest
  | _ => True

/-- The enabler answers as a registry of the announced names. -/
def Answers (s : ServiceServers) : ServiceOp → Prop
  | .announceService env name protocol =>
    outcome (announceService env name protocol) s.state = .ok (answer s.announced (.add name))
  | .revokeService name =>
    outcome (DdsEnabler.revokeService name) s.state = .ok (answer s.announced (.remove name))
  | .createReader _ _ => True

/-- No name is announced that has been revoked, nor one whose request topic has a reader while
the service is not there; and none is revoked that was announced over another service. -/
def Regular (s : ServiceServers) : ServiceOp → Prop
  | .announceService _ name protocol => name ∉ s.revoked ∧ (s.find name = none →
      ∀ t, requestTopic protocol name = some t → s.state.participant.lookupReader t = none)
  | .revokeService name => name ∉ s.onTop
  | .createReader _ _ => True

/-- The invariant: the flag stays for ever once a name has been announced, and the endpoint tells
the names that can be revoked. -/
structure Inv (s : ServiceServers) : Prop where
  absent : ∀ name, s.find name = none → name ∉ s.announced ∧ name ∉ s.revoked
  flag : ∀ name v, s.find name = some v →
    (v.enablerAsServer = true ↔ name ∈ s.announced ∨ name ∈ s.revoked)
  endpoint : ∀ name v, s.find name = some v →
    (v.endpointRequest.isSome = true ↔ name ∈ s.announced ∧ name ∉ s.onTop)
  complete : ∀ name v, s.find name = some v → v.endpointRequest.isSome = true →
    v.externalServer = false ∧ v.requestDiscovered = true ∧ v.replyDiscovered = true
  disjoint : ∀ name ∈ s.revoked, name ∉ s.announced
  onTop_sub : ∀ name ∈ s.onTop, name ∈ s.announced

variable {s : ServiceServers} {name : Str} {v : ServiceDiscovered}

/-! ### Answers -/

lemma announceService_answer {env : Env} {protocol : Protocol} (h : Inv s)
    (hfits : Fits s (.announceService env name protocol)) :
    Answers s (.announceService env name protocol) ↔
      Regular s (.announceService env name protocol) := by
  simp only [Answers, Regular]
  rcases hf : s.find name with _ | v
  · obtain ⟨hann, hrev⟩ := h.absent name hf
    obtain ⟨service, t, hq, hc⟩ := hfits hf
    obtain ⟨-, request, reply, hreq, -, hservice⟩ := queryService_some hq
    have htopic : service.topicRequest = request := by rw [hservice]; rfl
    have hrun := announceService_run_new hf hq hc
    rw [htopic] at hrun
    rcases hr : s.state.participant.lookupReader request.topicName with _ | f
    · rw [hr] at hrun
      simp [outcome_ok hrun, answer, hann, hrev, hreq, hr]
    · rw [hr] at hrun
      simp [outcome_ok hrun, answer, hann, hreq, hr]
  · have hflag := h.flag name v hf
    have hanswer : outcome (announceService env name protocol) s.state =
        .ok (!v.enablerAsServer) := by
      have hrun := @announceService_run_found env name protocol s.state v hf
      rcases hv : v.enablerAsServer
      · rw [hv] at hrun
        exact outcome_ok hrun
      · rw [hv] at hrun
        exact outcome_ok hrun
    rw [hanswer]
    by_cases hrev : name ∈ s.revoked
    · have hann := h.disjoint name hrev
      have hv : v.enablerAsServer = true := hflag.mpr (.inr hrev)
      simp [answer, hrev, hann, hv]
    · by_cases hann : name ∈ s.announced
      · have hv : v.enablerAsServer = true := hflag.mpr (.inl hann)
        simp [answer, hrev, hann, hv]
      · have hv : v.enablerAsServer = false := by
          rw [Bool.eq_false_iff, ne_eq, hflag]
          simp [hrev, hann]
        simp [answer, hrev, hann, hv]

lemma Inv.revocable (h : Inv s) (name : Str) :
    (s.state.participant.revokeServiceNts name).1 = true ↔
      name ∈ s.announced ∧ name ∉ s.onTop := by
  rw [revokeServiceNts_fst]
  constructor
  · rintro ⟨v, hv, -, he⟩
    exact (h.endpoint name v hv).mp he
  · rintro ⟨hann, htop⟩
    rcases hf : s.find name with _ | v
    · exact absurd hann (h.absent name hf).1
    · exact ⟨v, hf, (h.flag name v hf).mpr (.inl hann), (h.endpoint name v hf).mpr ⟨hann, htop⟩⟩

lemma revokeService_answer (h : Inv s) :
    Answers s (.revokeService name) ↔ Regular s (.revokeService name) := by
  have hanswer : outcome (DdsEnabler.revokeService name) s.state =
      .ok (s.state.participant.revokeServiceNts name).1 := rfl
  simp only [Answers, Regular]
  rw [hanswer, Except.ok.injEq, Bool.eq_iff_iff, h.revocable, answer, decide_eq_true_eq]
  constructor
  · exact fun hiff htop => (hiff.mpr (h.onTop_sub name htop)).2 htop
  · exact fun htop => ⟨And.left, fun hann => ⟨hann, htop⟩⟩

/-! ### Steps -/

/-- What the invariant says of one name with an entry. -/
structure EntryInv (v : ServiceDiscovered) (announced revoked onTop : Prop) : Prop where
  flag : v.enablerAsServer = true ↔ announced ∨ revoked
  endpoint : v.endpointRequest.isSome = true ↔ announced ∧ ¬ onTop
  complete : v.endpointRequest.isSome = true →
    v.externalServer = false ∧ v.requestDiscovered = true ∧ v.replyDiscovered = true
  disjoint : revoked → ¬ announced
  onTop_sub : onTop → announced

lemma Inv.entryInv (h : Inv s) (hf : s.find name = some v) :
    EntryInv v (name ∈ s.announced) (name ∈ s.revoked) (name ∈ s.onTop) :=
  ⟨h.flag name v hf, h.endpoint name v hf, h.complete name v hf, h.disjoint name,
    h.onTop_sub name⟩

lemma Inv.update (h : Inv s) {t : ServiceServers} (name : Str) (v : ServiceDiscovered)
    (hfind : ∀ n, t.find n = if n = name then some v else s.find n)
    (hothers : ∀ n, n ≠ name → (n ∈ t.announced ↔ n ∈ s.announced) ∧
      (n ∈ t.revoked ↔ n ∈ s.revoked) ∧ (n ∈ t.onTop ↔ n ∈ s.onTop))
    (hv : EntryInv v (name ∈ t.announced) (name ∈ t.revoked) (name ∈ t.onTop)) : Inv t := by
  have hold : ∀ n w, n ≠ name → t.find n = some w →
      EntryInv w (n ∈ t.announced) (n ∈ t.revoked) (n ∈ t.onTop) := by
    intro n w hn hw
    obtain ⟨ha, hr, ht⟩ := hothers n hn
    rw [hfind, if_neg hn] at hw
    rw [ha, hr, ht]
    exact h.entryInv hw
  have hall : ∀ n w, t.find n = some w →
      EntryInv w (n ∈ t.announced) (n ∈ t.revoked) (n ∈ t.onTop) := by
    intro n w hw
    by_cases hn : n = name
    · subst hn
      rw [hfind, if_pos rfl] at hw
      cases hw
      exact hv
    · exact hold n w hn hw
  refine ⟨fun n hn => ?_, fun n w hw => (hall n w hw).flag, fun n w hw => (hall n w hw).endpoint,
    fun n w hw => (hall n w hw).complete, fun n hn => ?_, fun n hn => ?_⟩
  · by_cases hne : n = name
    · rw [hfind, if_pos hne] at hn
      cases hn
    · obtain ⟨ha, hr, -⟩ := hothers n hne
      rw [hfind, if_neg hne] at hn
      rw [ha, hr]
      exact h.absent n hn
  · by_cases hne : n = name
    · subst hne
      exact hv.disjoint hn
    · obtain ⟨ha, hr, -⟩ := hothers n hne
      rw [ha]
      exact h.disjoint n (hr.mp hn)
  · by_cases hne : n = name
    · subst hne
      exact hv.onTop_sub hn
    · obtain ⟨ha, -, ht⟩ := hothers n hne
      rw [ha]
      exact h.onTop_sub n (ht.mp hn)

lemma Inv.same (h : Inv s) {t : State}
    (ht : t.participant.services = s.state.participant.services) :
    Inv { s with state := t } := by
  have hfind : ∀ n, ServiceServers.find { s with state := t } n = s.find n := by
    intro n
    simp only [ServiceServers.find, ht]
  exact ⟨fun n hn => h.absent n (hfind n ▸ hn), fun n w hw => h.flag n w (hfind n ▸ hw),
    fun n w hw => h.endpoint n w (hfind n ▸ hw), fun n w hw => h.complete n w (hfind n ▸ hw),
    h.disjoint, h.onTop_sub⟩

lemma announceService_new_inv (h : Inv s) {env : Env} {protocol : Protocol}
    (hfits : Fits s (.announceService env name protocol)) (hf : s.find name = none) :
    Inv (s.step (.announceService env name protocol)) := by
  obtain ⟨hann, hrev⟩ := h.absent name hf
  have htop : name ∉ s.onTop := fun ht => hann (h.onTop_sub name ht)
  obtain ⟨service, t, hq, hc⟩ := hfits hf
  obtain ⟨hp, request, reply, -, -, hservice⟩ := queryService_some hq
  have hrun := announceService_run_new hf hq hc
  rcases hr : s.state.participant.lookupReader service.topicRequest.topicName with _ | f
  · rw [hr] at hrun
    have hname : service.serviceName = name := by rw [hservice]; rfl
    simp only [step, returned_ok hrun, after_ok hrun, hf, Option.isSome_none, Bool.and_false,
      Bool.false_eq_true, if_false]
    set v : ServiceDiscovered := { service with
      endpointRequest := some (s.state.participant.simulateEndpoint service.topicRequest).1 }
      with hv
    refine h.update name v (fun n => ?_) (fun n hn => ⟨?_, Iff.rfl, Iff.rfl⟩)
      ⟨?_, ?_, fun _ => ?_, fun hr => absurd hr hrev, fun ht => absurd ht htop⟩
    · have hn : (n = name) = (n = service.serviceName) := by rw [hname]
      simp only [hn]
      exact ServiceMap.find_insertOrAssign ..
    · rw [mem_record_add]
      exact or_iff_left fun hn' => hn hn'.2
    · rw [mem_record_add]
      simp [hv, hservice, ServiceDiscovered.queried]
    · rw [mem_record_add]
      simp [hv, htop]
    · simp [hv, hservice, ServiceDiscovered.queried]
  · rw [hr] at hrun
    simp only [step, returned_ok hrun, after_ok hrun, Bool.false_and, record_false]
    exact h.same (congrArg Participant.services hp)

lemma announceService_found_inv (h : Inv s) (env : Env) (protocol : Protocol)
    (hf : s.find name = some v) : Inv (s.step (.announceService env name protocol)) := by
  have he := h.entryInv hf
  have hrun := @announceService_run_found env name protocol s.state v hf
  rcases hv : v.enablerAsServer
  · rw [hv] at hrun
    have hout : ¬ (name ∈ s.announced ∨ name ∈ s.revoked) := by
      rw [← he.flag, hv]
      simp
    have hend : v.endpointRequest.isSome = false := by
      rw [Bool.eq_false_iff, ne_eq, he.endpoint]
      exact fun hann => hout (.inl hann.1)
    simp only [Bool.false_eq_true, if_false] at hrun
    simp only [step, returned_ok hrun, after_ok hrun, hf, Option.isSome_some, Bool.and_true,
      if_true]
    refine h.update name { v with enablerAsServer := true } (fun n => ?_)
      (fun n hn => ⟨?_, Iff.rfl, ?_⟩) ⟨?_, ?_, ?_, fun hr => absurd (.inr hr) hout, ?_⟩
    · exact ServiceMap.find_set ..
    · rw [mem_record_add]
      exact or_iff_left fun hn' => hn hn'.2
    · rw [Finset.mem_insert]
      exact or_iff_right hn
    · rw [mem_record_add]
      simp
    · rw [Finset.mem_insert]
      simp [hend]
    · intro hsome
      rw [hend] at hsome
      cases hsome
    · rw [mem_record_add]
      exact fun _ => .inr ⟨rfl, rfl⟩
  · rw [hv] at hrun
    simp only [if_true] at hrun
    simp only [step, returned_ok hrun, after_ok hrun, Bool.false_and, record_false]
    exact h.same rfl

lemma revokeService_inv (h : Inv s) : Inv (s.step (.revokeService name)) := by
  have hrun : (DdsEnabler.revokeService name).run s.state =
      .ok (s.state.participant.revokeServiceNts name).1
        { s.state with participant := (s.state.participant.revokeServiceNts name).2 } := rfl
  rcases hb : (s.state.participant.revokeServiceNts name).1
  · rw [hb, revokeServiceNts_false _ hb] at hrun
    simp only [step, returned_ok hrun, after_ok hrun, record_false]
    exact h.same rfl
  · obtain ⟨v, hf, hserver, hsome⟩ := (revokeServiceNts_fst _ name).mp hb
    obtain ⟨hann, htop⟩ := (h.revocable name).mp hb
    obtain ⟨hx, -, -⟩ := h.complete name v hf hsome
    obtain ⟨e, he⟩ := Option.isSome_iff_exists.mp hsome
    rw [hb, revokeServiceNts_dismantle _ hf hserver he hx] at hrun
    simp only [step, returned_ok hrun, after_ok hrun, if_true]
    refine h.update name ({ v with endpointRequest := none }.removeTopic .request) (fun n => ?_)
      (fun n hn => ⟨?_, ?_, Iff.rfl⟩) ⟨?_, ?_, ?_, ?_, fun ht => absurd ht htop⟩
    · change (Participant.dismantle _ _ _ _).services.find n = _
      rw [dismantle_services]
      exact ServiceMap.find_set ..
    · rw [mem_record_remove]
      exact and_iff_left fun hn' => hn hn'.2
    · rw [Finset.mem_insert]
      exact or_iff_right hn
    · simp [ServiceDiscovered.removeTopic, hserver]
    · simp [ServiceDiscovered.removeTopic]
    · simp [ServiceDiscovered.removeTopic]
    · simp

lemma discover_entry (v : ServiceDiscovered) (topic : DdsTopic) (ty : ServiceType) :
    (v.discover topic ty).enablerAsServer = v.enablerAsServer ∧
      (v.discover topic ty).endpointRequest = v.endpointRequest ∧
      (v.requestDiscovered = true → v.replyDiscovered = true → v.discover topic ty = v) := by
  cases ty <;> (
    simp only [ServiceDiscovered.discover, ServiceDiscovered.addTopic, ServiceDiscovered.complete]
    repeat' split
    all_goals simp_all)

lemma createReader_inv (h : Inv s) (env : Env) (topic : DdsTopic) :
    Inv (s.step (.createReader env topic)) := by
  rcases discovers_createReader topic env s.state with hsame | ⟨info, topic', hset⟩
  · exact h.same hsame
  · rw [serviceDiscovered_services] at hset
    refine h.update info.serviceName _
      (fun n => (congrArg (ServiceMap.find · n) hset).trans (ServiceMap.find_set ..))
      (fun n hn => ⟨Iff.rfl, Iff.rfl, Iff.rfl⟩) ?_
    simp only [step]
    rcases hf : s.state.participant.services.find info.serviceName with _ | v
    · obtain ⟨hann, hrev⟩ := h.absent info.serviceName hf
      obtain ⟨hflag, hend, -⟩ := discover_entry
        { serviceName := info.serviceName, protocol := info.protocol } topic' info.serviceType
      rw [Option.getD_none]
      refine ⟨?_, ?_, ?_, fun hr => absurd hr hrev, h.onTop_sub _⟩
      · rw [hflag]
        simp [hann, hrev]
      · rw [hend]
        simp [hann]
      · rw [hend]
        simp
    · have he := h.entryInv hf
      obtain ⟨hflag, hend, hsame⟩ := discover_entry v topic' info.serviceType
      rw [Option.getD_some]
      refine ⟨by rw [hflag, he.flag], by rw [hend, he.endpoint], fun hsome => ?_, he.disjoint,
        he.onTop_sub⟩
      rw [hend] at hsome
      obtain ⟨hx, hreq, hrep⟩ := he.complete hsome
      rw [hsame hreq hrep]
      exact ⟨hx, hreq, hrep⟩

lemma step_inv (op : ServiceOp) (h : Inv s) (hfits : Fits s op) : Inv (s.step op) := by
  cases op with
  | announceService env name protocol =>
    rcases hf : s.find name with _ | v
    · exact announceService_new_inv h hfits hf
    · exact announceService_found_inv h env protocol hf
  | revokeService name => exact revokeService_inv h
  | createReader env topic => exact createReader_inv h env topic

/-- An enabler that has not been asked for anything. -/
def start (handler : Handler) : ServiceServers := { state := { handler } }

lemma inv_start (handler : Handler) : Inv (start handler) where
  absent _ _ := ⟨Finset.notMem_empty _, Finset.notMem_empty _⟩
  flag name v h := by simp [find, start, ServiceMap.find] at h
  endpoint name v h := by simp [find, start, ServiceMap.find] at h
  complete name v h := by simp [find, start, ServiceMap.find] at h
  disjoint _ h := absurd h (Finset.notMem_empty _)
  onTop_sub _ h := absurd h (Finset.notMem_empty _)

/-- **Announced services form a registry** in a run if and only if the run never announces a
name that has been revoked, nor one whose request topic has a reader but whose service is not
there, and never revokes a name that was announced over another service. -/
theorem services_answer_iff (handler : Handler) (w : List ServiceOp)
    (hw : Along step Fits (start handler) w) :
    Along step Answers (start handler) w ↔ Along step Regular (start handler) w := by
  refine along_iff_of_inv (fun s op hs hfits _ => step_inv op hs hfits) (fun s op hs hfits => ?_)
    (inv_start handler) hw
  cases op with
  | announceService env name protocol => exact announceService_answer hs hfits
  | revokeService name => exact revokeService_answer hs
  | createReader env topic => exact Iff.rfl

/-! ### One service -/

/-- Every query is answered, with types that the registry knows. -/
def answeringEnv : Env :=
  { Env.silent with
    callbacks := { Callbacks.unset with serviceQuery := some fun _ => some ⟨⟨[], []⟩, ⟨[], []⟩⟩ }
    types := { Env.silent.types with
      getTypeIdentifiers := fun _ => some 0
      getTypeObject := fun _ => some 0
      createType := fun _ => some ⟨[], 0⟩ } }

def addTwoInts : Str := "add_two_ints".toList

def announceOp : ServiceOp := .announceService answeringEnv addTwoInts .ros2
def revokeOp : ServiceOp := .revokeService addTwoInts

/-- The two topics of a server elsewhere are discovered. -/
def discoverOps : List ServiceOp :=
  [.createReader answeringEnv { topicName := "rq/add_two_intsRequest".toList },
    .createReader answeringEnv { topicName := "rr/add_two_intsReply".toList }]

theorem services_answer_iff_addTwoInts :
    Along step Answers (start {}) [announceOp, revokeOp] ↔
      Along step Regular (start {}) [announceOp, revokeOp] :=
  services_answer_iff {} [announceOp, revokeOp] ⟨fun _ => ⟨_, _, rfl, rfl, rfl⟩, trivial, trivial⟩

/-- A service that was revoked cannot be announced again, and one announced over a server
elsewhere cannot be revoked. -/
theorem announced_set_lost :
    (Along step Fits (start {}) [announceOp, revokeOp, announceOp] ∧
      ¬ Along step Answers (start {}) [announceOp, revokeOp, announceOp]) ∧
      Along step Fits (start {}) (discoverOps ++ [announceOp, revokeOp]) ∧
      ¬ Along step Answers (start {}) (discoverOps ++ [announceOp, revokeOp]) := by
  refine ⟨⟨⟨fun _ => ⟨_, _, rfl, rfl, rfl⟩, trivial, fun h => ?_, trivial⟩, ?_⟩,
    ⟨trivial, trivial, fun h => ?_, trivial, trivial⟩, ?_⟩
  · have hsome : (find (run step (start {}) [announceOp, revokeOp]) addTwoInts).isSome := by
      decide +kernel
    have hnone : find (run step (start {}) [announceOp, revokeOp]) addTwoInts = none := h
    rw [hnone] at hsome
    cases hsome
  · rintro ⟨-, -, h, -⟩
    have hlost : (Except.ok false : Except Exc Bool) = .ok true := h
    cases hlost
  · have hsome : (find (run step (start {}) discoverOps) addTwoInts).isSome := by decide +kernel
    have hnone : find (run step (start {}) discoverOps) addTwoInts = none := h
    rw [hnone] at hsome
    cases hsome
  · rintro ⟨-, -, -, h, -⟩
    have hlost : (Except.ok false : Except Exc Bool) = .ok true := h
    cases hlost

end ServiceServers

end DdsEnabler
