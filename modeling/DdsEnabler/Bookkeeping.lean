import DdsEnabler.AnnouncingActions

/-!
What the entries of services say of themselves.

An entry has flags for its two topics and one for both, and the topic made of them. Discoveries,
announcements and revocations change these in different combinations, announcements in several
pieces; but every entry that is put under a name says the same in all of its fields. So what has
just been completed can be read.
-/

namespace DdsEnabler

open Exec Runs Tables Contention

/-! ### One entry -/

/-- The entry of a service says in its flags and in its topic whether both topics are there. -/
structure ServiceDiscovered.Consistent (v : ServiceDiscovered) (serviceName : Str) : Prop where
  name : v.serviceName = serviceName
  complete : v.fullyDiscovered = true ↔
    v.requestDiscovered = true ∧ v.replyDiscovered = true ∧ serviceName ≠ []
  topic : v.fullyDiscovered = true ↔ v.rpcTopic.isSome = true
  built : ∀ t, v.rpcTopic = some t → t = ⟨serviceName, v.topicRequest, v.topicReply⟩

namespace ServiceDiscovered

variable {v : ServiceDiscovered} {serviceName : Str}

lemma consistent_blank (serviceName : Str) (protocol : Protocol) :
    Consistent { serviceName, protocol } serviceName :=
  ⟨rfl, by simp, by simp, fun t h => by cases h⟩

lemma consistent_complete (hname : v.serviceName = serviceName)
    (hfull : v.fullyDiscovered = false) (htopic : v.rpcTopic = none) :
    v.complete.2.Consistent serviceName := by
  subst hname
  unfold complete
  split
  · next hboth =>
    split
    · next hempty => exact ⟨rfl, by simp_all, by simp_all, by simp_all⟩
    · next hempty => exact ⟨rfl, by simp_all, by simp, by simp⟩
  · next hnot => exact ⟨rfl, by simp_all, by simp_all, by simp_all⟩

lemma Consistent.none_of_not (h : v.Consistent serviceName) (hfull : ¬ v.fullyDiscovered = true) :
    v.fullyDiscovered = false ∧ v.rpcTopic = none :=
  ⟨by simpa using hfull, by simpa using fun hsome => hfull (h.topic.mpr hsome)⟩

lemma Consistent.addTopic (h : v.Consistent serviceName) (topic : DdsTopic) (ty : ServiceType) :
    (v.addTopic topic ty).2.Consistent serviceName := by
  unfold ServiceDiscovered.addTopic
  split
  · split
    · exact h
    · next hrequest =>
      obtain ⟨hfull, htopic⟩ := h.none_of_not fun hfull => hrequest (h.complete.mp hfull).1
      exact consistent_complete h.name hfull htopic
  · split
    · exact h
    · next hreply =>
      obtain ⟨hfull, htopic⟩ := h.none_of_not fun hfull => hreply (h.complete.mp hfull).2.1
      exact consistent_complete h.name hfull htopic

lemma Consistent.removeTopic (h : v.Consistent serviceName) (ty : ServiceType) :
    (v.removeTopic ty).Consistent serviceName := by
  unfold ServiceDiscovered.removeTopic
  split
  · exact ⟨h.name, by simp, by simp, fun t ht => by cases ht⟩
  · exact ⟨h.name, by simp, by simp, fun t ht => by cases ht⟩

lemma Consistent.serving (h : v.Consistent serviceName) (enabler external : Bool)
    (endpoint : Option Endpoint) :
    Consistent { v with
      enablerAsServer := enabler, externalServer := external, endpointRequest := endpoint }
        serviceName :=
  ⟨h.name, h.complete, h.topic, h.built⟩

lemma Consistent.discover (h : v.Consistent serviceName) (topic : DdsTopic) (ty : ServiceType) :
    (v.discover topic ty).Consistent serviceName := by
  have hadded := h.addTopic topic ty
  unfold ServiceDiscovered.discover
  split
  · exact hadded.serving _ true _
  · exact hadded

lemma Consistent.getService (h : v.Consistent serviceName) (hfull : v.fullyDiscovered = true) :
    v.getService = .ok ⟨serviceName, v.topicRequest, v.topicReply⟩ := by
  obtain ⟨t, ht⟩ := Option.isSome_iff_exists.mp (h.topic.mp hfull)
  rw [ServiceDiscovered.getService, hfull, ht, h.built t ht]

lemma fullyDiscovered_addTopic {topic : DdsTopic} {ty : ServiceType}
    (h : (v.addTopic topic ty).1 = true) : (v.addTopic topic ty).2.fullyDiscovered = true := by
  have hcomplete : ∀ v : ServiceDiscovered, v.complete.1 = true →
      v.complete.2.fullyDiscovered = true := by
    intro v hv
    unfold complete at hv ⊢
    split at hv
    · next hboth =>
      split at hv
      · cases hv
      · next hempty => simp [hboth, hempty]
    · cases hv
  unfold ServiceDiscovered.addTopic at h ⊢
  split at h
  · split at h
    · cases h
    · next hrequest => simpa [hrequest] using hcomplete _ h
  · next hty =>
    split at h
    · cases h
    · next hreply => simpa [hty, hreply] using hcomplete _ h

end ServiceDiscovered

/-! ### The services -/

/-- Every entry of the services is consistent under its name. -/
def Participant.Consistent (p : Participant) : Prop :=
  ∀ name v, p.services.find name = some v → v.Consistent name

section Services

variable {p : Participant} {name : Str} {v : ServiceDiscovered}

lemma Participant.Consistent.same {q : Participant} (h : p.Consistent)
    (hq : ∀ n, q.services.find n = p.services.find n) : q.Consistent :=
  fun n v hv => h n v ((hq n).symm.trans hv)

lemma Participant.Consistent.put {q : Participant} (h : p.Consistent) (hv : v.Consistent name)
    (hq : ∀ n, q.services.find n = if n = name then some v else p.services.find n) :
    q.Consistent := by
  intro n v' hv'
  rw [hq] at hv'
  split at hv'
  · next hn =>
    cases hv'
    exact hn ▸ hv
  · exact h n v' hv'

lemma Participant.Consistent.set (h : p.Consistent) (hv : v.Consistent name) :
    ({ p with services := p.services.set name v } : Participant).Consistent :=
  h.put hv fun n => ServiceMap.find_set _ _ n _

lemma Participant.Consistent.lock (h : p.Consistent) {w : Option WeakRef}
    (hw : p.services.lock w = some v) : ∃ name, v.Consistent name := by
  rcases w with _ | w
  · cases hw
  · simp only [ServiceMap.lock] at hw
    split at hw
    · exact ⟨w.name, h w.name v hw⟩
    · cases hw

lemma Participant.Consistent.serviceDiscovered (h : p.Consistent) (info : RpcInfo)
    (topic : DdsTopic) : (p.serviceDiscovered info topic).2.Consistent := by
  have hentry : (((p.services.find info.serviceName).getD
      { serviceName := info.serviceName, protocol := info.protocol }).discover topic
        info.serviceType).Consistent info.serviceName := by
    rcases hf : p.services.find info.serviceName with _ | v
    · exact (ServiceDiscovered.consistent_blank _ _).discover topic info.serviceType
    · exact (h _ v hf).discover topic info.serviceType
  exact h.put hentry fun n => ServiceMap.find_set _ _ n _

/-- The services that a complete action is read off. -/
structure ActionDiscovered.Whole (services : ServiceMap) (a : ActionDiscovered)
    (goal result cancel : ServiceDiscovered) : Prop where
  hasGoal : services.lock a.goal = some goal
  hasResult : services.lock a.result = some result
  hasCancel : services.lock a.cancel = some cancel
  complete : goal.fullyDiscovered = true ∧ result.fullyDiscovered = true ∧
    cancel.fullyDiscovered = true
  topics : a.feedbackDiscovered = true ∧ a.statusDiscovered = true

lemma checkFullyDiscovered_whole {services : ServiceMap} {a : ActionDiscovered}
    (h : (a.checkFullyDiscovered services).1 = true) :
    (a.checkFullyDiscovered services).2 = { a with fullyDiscovered := true } ∧
      ∃ goal result cancel, a.Whole services goal result cancel := by
  unfold ActionDiscovered.checkFullyDiscovered at h ⊢
  split at h
  · next goal result cancel hgoal hresult hcancel =>
    split at h
    · next hall =>
      simp only [Bool.and_eq_true] at hall
      obtain ⟨⟨⟨⟨hg, hr⟩, hc⟩, hfeedback⟩, hstatus⟩ := hall
      refine ⟨?_, goal, result, cancel, hgoal, hresult, hcancel, ⟨hg, hr, hc⟩, hfeedback, hstatus⟩
      simp only [hg, hr, hc, hfeedback, hstatus]
      rfl
    · cases h
  · cases h

/-- What makes an action complete makes the three services complete that it is read off. -/
lemma Participant.Consistent.getAction (h : p.Consistent) {a : ActionDiscovered}
    (hfull : a.fullyDiscovered = true) {goal result cancel : ServiceDiscovered}
    (hwhole : a.Whole p.services goal result cancel) :
    ∃ action, a.getAction p.services = .ok action := by
  obtain ⟨hg, hr, hc⟩ := hwhole.complete
  obtain ⟨n, hn⟩ := h.lock hwhole.hasGoal
  obtain ⟨n', hn'⟩ := h.lock hwhole.hasResult
  obtain ⟨n'', hn''⟩ := h.lock hwhole.hasCancel
  unfold ActionDiscovered.getAction
  rw [hfull, hwhole.hasGoal, hwhole.hasResult, hwhole.hasCancel]
  refine ⟨⟨a.actionName, ⟨n, goal.topicRequest, goal.topicReply⟩,
    ⟨n', result.topicRequest, result.topicReply⟩, ⟨n'', cancel.topicRequest, cancel.topicReply⟩,
    a.feedback, a.status⟩, ?_⟩
  simp only [hn.getService hg, hn'.getService hr, hn''.getService hc]

/-! ### Revocations -/

lemma Participant.Consistent.dismantle (h : p.Consistent) (hv : v.Consistent name)
    (e : Endpoint) : (p.dismantle name v e).Consistent := by
  have hset := h.set ((hv.serving v.enablerAsServer v.externalServer none).removeTopic .request)
  unfold Participant.dismantle
  extract_lets p'
  split
  · exact hset
  · exact hset

lemma Participant.Consistent.revokeServiceNts (h : p.Consistent) (name : Str) :
    (p.revokeServiceNts name).2.Consistent := by
  unfold Participant.revokeServiceNts
  split
  · exact h
  · next v hv =>
    split
    · split
      · exact h.set ((h name v hv).serving false _ _)
      · exact h.dismantle (h name v hv) _
    · exact h

lemma Participant.Consistent.revokeServices (h : p.Consistent) (names : List Str) :
    (p.revokeServices names).2.Consistent := by
  induction names generalizing p with
  | nil => exact h
  | cons name names ih =>
    have hfirst := h.revokeServiceNts name
    unfold Participant.revokeServices
    rcases hq : p.revokeServiceNts name with ⟨b, q⟩
    rw [hq] at hfirst
    rcases b
    · exact hfirst
    · exact ih hfirst

lemma Participant.Consistent.revokeAction (h : p.Consistent) (actionName : Str) :
    (p.revokeAction actionName).2.Consistent := by
  unfold Participant.revokeAction
  split
  · exact h
  · split
    · exact h
    · split
      · exact h
      · split
        · next goal result cancel _ _ _ =>
          have hrest := h.revokeServices
            [goal.serviceName, result.serviceName, cancel.serviceName]
          rcases hq : p.revokeServices
            [goal.serviceName, result.serviceName, cancel.serviceName] with ⟨b, q⟩
          rw [hq] at hrest
          rcases b
          · exact hrest
          · exact hrest
        · exact h

/-! ### Discoveries -/

lemma Participant.Consistent.entered (h : p.Consistent) {topic : DdsTopic} {q : Participant}
    (hq : EnteredAs topic p q) : q.Consistent := by
  rcases hq.discovers with hsame | ⟨info, topic', hservices⟩
  · exact h.same fun n => by rw [hsame]
  · exact (h.serviceDiscovered info topic').same fun n => by rw [hservices]

lemma Participant.Consistent.createReader {s : State} (h : s.participant.Consistent) (env : Env)
    (topic : DdsTopic) : (after (createReader env topic) s).participant.Consistent := by
  obtain ⟨q, readers, hq, hafter⟩ := entered_createReader topic env s
  rw [hafter]
  exact (h.entered hq).same fun _ => rfl

end Services

/-- What is read where a discovery has just completed it: the service or the action is there, and
so there is a reader for every topic but those of type objects. -/
structure Retrieves (env : Env) (topic : DdsTopic) (s : State) : Prop where
  service : ∀ info : RpcInfo, (s.participant.serviceDiscovered info topic).1 = true →
    ∃ service, (s.participant.serviceDiscovered info topic).2.getService info.serviceName =
      .ok service
  action : ∀ info : RpcInfo, (s.participant.actionDiscovered info topic).1 = true →
    ∃ action, (s.participant.actionDiscovered info topic).2.getAction info.actionName = .ok action
  reader : env.isTypeObjectTopic topic = false →
    outcome (createReader env topic) s =
      .ok (some (makeReader env (.ofTopic topic.topicName) topic))

section Retrieval

variable {env : Env} {topic : DdsTopic} {s : State}

lemma retrieves_service (h : s.participant.Consistent) {info : RpcInfo}
    (hfound : (s.participant.serviceDiscovered info topic).1 = true) :
    ∃ service, (s.participant.serviceDiscovered info topic).2.getService info.serviceName =
      .ok service := by
  have hafter := h.serviceDiscovered info topic
  rcases hv : (s.participant.serviceDiscovered info topic).2.services.find info.serviceName with
    _ | v
  · rw [serviceDiscovered_services, ServiceMap.find_set, if_pos rfl] at hv
    cases hv
  · have hfull : v.fullyDiscovered = true := by
      rw [serviceDiscovered_services, ServiceMap.find_set, if_pos rfl] at hv
      cases hv
      have hadded := ServiceDiscovered.fullyDiscovered_addTopic hfound
      unfold ServiceDiscovered.discover
      split
      · exact hadded
      · exact hadded
    refine ⟨⟨info.serviceName, v.topicRequest, v.topicReply⟩, ?_⟩
    rw [Participant.getService, hv]
    exact (hafter _ v hv).getService hfull

lemma retrieves_action (h : s.participant.Consistent) {info : RpcInfo}
    (hfound : (s.participant.actionDiscovered info topic).1 = true) :
    ∃ action, (s.participant.actionDiscovered info topic).2.getAction info.actionName =
      .ok action := by
  have hafter : (s.participant.actionDiscovered info topic).2.Consistent := by
    rcases discovers_actionDiscovered s.participant info topic with hsame | ⟨i, t, hservices⟩
    · exact h.same fun n => by rw [hsame]
    · exact (h.serviceDiscovered i t).same fun n => by rw [hservices]
  unfold Participant.actionDiscovered at hfound hafter ⊢
  dsimp only at hfound hafter ⊢
  generalize s.participant.enterTopic info topic _ = entered at hfound hafter ⊢
  obtain ⟨p, a'⟩ := entered
  dsimp only at hfound hafter ⊢
  obtain ⟨hcheck, goal, result, cancel, hwhole⟩ := checkFullyDiscovered_whole hfound
  have hlookup : (p.actions.insert info.actionName { (a'.checkFullyDiscovered p.services).2 with
      externalServer := true }).lookup info.actionName = _ :=
    (lookup_insert _ _ _ _).trans (if_pos rfl)
  rw [Participant.getAction, hfound, if_pos rfl, hlookup, hcheck]
  exact hafter.getAction rfl ⟨hwhole.hasGoal, hwhole.hasResult, hwhole.hasCancel, hwhole.complete,
    hwhole.topics⟩

/-- What has just been completed can be read, so that a discovery is never turned down. -/
lemma notifyDiscovery_returns (h : s.participant.Consistent) (info : RpcInfo) :
    outcome (notifyDiscovery env info topic) s = .ok true := by
  unfold notifyDiscovery
  rcases info.rpcType
  · exact outcome_ok (run_bind_ok (notify_run _ _ s))
  · refine (outcome_congr (run_bind_ok (onParticipant_run s _))).trans ?_
    rcases hfound : (s.participant.serviceDiscovered info topic).1
    · rfl
    · obtain ⟨service, hget⟩ := retrieves_service h hfound
      rw [if_pos rfl]
      refine (outcome_congr (run_bind_ok (readParticipant_run _ _))).trans ?_
      dsimp only
      rw [hget]
      exact outcome_ok (run_bind_ok (notify_run _ _ _))
  · refine (outcome_congr (run_bind_ok (onParticipant_run s _))).trans ?_
    rcases hfound : (s.participant.actionDiscovered info topic).1
    · rfl
    · obtain ⟨action, hget⟩ := retrieves_action h hfound
      rw [if_pos rfl]
      refine (outcome_congr (run_bind_ok (readParticipant_run _ _))).trans ?_
      dsimp only
      rw [hget]
      exact outcome_ok (run_bind_ok (notify_run _ _ _))

lemma retrieves (h : s.participant.Consistent) (env : Env) (topic : DdsTopic) :
    Retrieves env topic s where
  service _ := retrieves_service h
  action _ := retrieves_action h
  reader := by
    intro htype
    have hregister : ∀ t : State, outcome (do
        onParticipant fun p => ((), p.setReader topic (makeReader env (.ofTopic topic.topicName)
          topic))
        return some (makeReader env (.ofTopic topic.topicName) topic)) t =
          .ok (some (makeReader env (.ofTopic topic.topicName) topic)) := fun t => rfl
    unfold createReader
    rw [if_neg (by simpa using htype)]
    extract_lets info jp
    by_cases hforeign : topic.discoverer ≠ env.id
    · rw [if_pos hforeign]
      obtain ⟨t, hrun⟩ : ∃ t, (notifyDiscovery env info topic).run s = .ok true t :=
        ⟨_, run_eq_ok.mpr ⟨notifyDiscovery_returns h info, rfl⟩⟩
      exact (outcome_congr (run_bind_ok hrun)).trans (hregister t)
    · rw [if_neg hforeign]
      exact hregister s

end Retrieval

/-! ### Announcements in pieces -/

/-- Every entry is consistent, and the readers are these. -/
structure State.Books (readers : Table TopicKey Reader) (s : State) : Prop where
  consistent : s.participant.Consistent
  readers : s.participant.readers = readers

/-- The service that a call waits to enter is consistent. -/
def ServiceCall.Consistent (serviceName : Str) : ServiceCall → Prop
  | .waiting w => w.service.Consistent serviceName
  | _ => True

def ActionCall.Consistent (actionName : Str) : ActionCall → Prop
  | .waiting (.service _ _ t v _) => v.Consistent (partName actionName t)
  | _ => True

section Pieces

variable {readers : Table TopicKey Reader} {α : Type} {Q : α → Prop} {env : Env}
  {serviceName actionName : Str} {protocol : Protocol}

lemma ensures_ignores {x : M α} (hx : Ignores x) (hq : ∀ s a t, x.run s = .ok a t → Q a) :
    Ensures (State.Books readers) x Q := by
  refine fun s hs => ⟨?_, fun a t hrun => hq s a t hrun⟩
  have hsame := hx.after s
  exact ⟨fun name v hv => hs.consistent name v (hsame ▸ hv), by rw [hsame, hs.readers]⟩

lemma ensures_read {f : Participant → α} (hf : ∀ p, p.Consistent → Q (f p)) :
    Ensures (State.Books readers) (readParticipant f) Q := by
  refine fun s hs => ⟨hs, fun a t hrun => ?_⟩
  cases hrun
  exact hf s.participant hs.consistent

lemma ensures_look {f : Participant → α} :
    Ensures (State.Books readers) (readParticipant f) fun _ => True :=
  ensures_read fun _ _ => trivial

lemma ensures_change {f : Participant → α × Participant}
    (hf : ∀ p, p.Consistent → (f p).2.Consistent) (hreaders : ∀ p, (f p).2.readers = p.readers) :
    Ensures (State.Books readers) (onParticipant f) fun _ => True :=
  fun s hs => ⟨⟨hf s.participant hs.consistent, (hreaders s.participant).trans hs.readers⟩,
    fun _ _ _ => trivial⟩

lemma ensures_fillServiceType (info : ServiceInfo) :
    Ensures (State.Books readers) (fillServiceType env info { serviceName, protocol } protocol)
      fun r => ∀ v ∈ r, v.Consistent serviceName := by
  have hfill : ∀ topicName i, Ensures (State.Books readers) (fillTopicStruct env topicName i)
      fun _ => True := fun topicName i =>
    ensures_ignores (ignores_fillTopicStruct env topicName i) fun _ _ _ _ => trivial
  unfold fillServiceType
  split
  · refine (hfill _ _).bind fun r _ => ?_
    split
    · exact .pure (by simp)
    · refine (hfill _ _).bind fun r' _ => ?_
      split
      · exact .pure (by simp)
      · next request _ _ reply =>
        have hboth := ((ServiceDiscovered.consistent_blank serviceName protocol).addTopic request
          .request).addTopic reply .reply
        refine .ite (.pure fun v hv => ?_) (.pure (by simp))
        cases hv
        exact hboth.serving true _ _
  · exact .pure (by simp)

lemma ensures_queryService : Ensures (State.Books readers)
    (queryService env { serviceName, protocol } protocol)
      fun r => ∀ v ∈ r, v.Consistent serviceName := by
  unfold queryService
  split
  · exact .pure (by simp)
  · split
    · exact .pure (by simp)
    · exact ensures_fillServiceType _

lemma ensures_startService : Ensures (State.Books readers) (startService env serviceName protocol)
    (ServiceCall.Consistent serviceName) := by
  unfold startService
  refine (ensures_read (Q := fun r => ∀ v ∈ r, v.Consistent serviceName)
    fun p hp v hv => hp serviceName v hv).bind fun r hr => ?_
  split
  · next v =>
    refine .ite (.pure trivial) ?_
    exact (ensures_change (fun _ hp => hp.set ((hr v rfl).serving true _ _)) fun _ => rfl).bind
      fun _ _ => .pure trivial
  · refine ensures_queryService.bind fun r hr => ?_
    split
    · exact .pure trivial
    · next v =>
      refine ensures_look.bind fun reader _ => ?_
      split
      · exact .pure trivial
      · refine (ensures_change (fun _ hp => hp) fun _ => rfl).bind fun e _ => ?_
        exact .pure (hr v rfl)

lemma ensures_insertService {v : ServiceDiscovered} (hv : v.Consistent serviceName) :
    Ensures (State.Books readers) (insertService serviceName v) fun _ => True :=
  ensures_change (fun _ hp => hp.put hv fun n => ServiceMap.find_insertOrAssign _ _ n _)
    fun _ => rfl

lemma ensures_wakeService {timedOut : Bool} {w : ServiceWait}
    (hw : w.service.Consistent serviceName) :
    Ensures (State.Books readers) (wakeService serviceName timedOut w)
      (ServiceCall.Consistent serviceName) := by
  unfold wakeService
  refine ensures_look.bind fun reader _ => ?_
  split
  · exact (ensures_insertService (hw.serving _ _ (some w.request))).bind fun _ _ => .pure trivial
  · refine .pure ?_
    split
    · trivial
    · exact hw

/-! An action is announced with services that the user is asked for. -/

lemma ensures_enterAction (action : ActionDiscovered) :
    Ensures (State.Books readers) (enterAction actionName action)
      (ActionCall.Consistent actionName) :=
  (ensures_change (fun _ hp => hp) fun _ => rfl).bind fun _ _ => .pure trivial

lemma ensures_wakeTopic {timedOut : Bool} {wait : DdsTopic → ActionWait}
    {next : DdsTopic → M ActionCall} {topic : DdsTopic}
    (hnext : ∀ t, Ensures (State.Books readers) (next t) (ActionCall.Consistent actionName))
    (hwait : ∀ t, ActionCall.Consistent actionName (.waiting (wait t))) :
    Ensures (State.Books readers) (wakeTopic timedOut wait next topic)
      (ActionCall.Consistent actionName) := by
  unfold wakeTopic
  refine ensures_look.bind fun reader _ => ?_
  split
  · exact hnext _
  · refine .pure ?_
    split
    · trivial
    · exact hwait _

lemma ensures_startTopic {info : TopicInfo} {topicName lookedUp : Str}
    {wait : DdsTopic → ActionWait} {next : DdsTopic → M ActionCall}
    (hnext : ∀ t, Ensures (State.Books readers) (next t) (ActionCall.Consistent actionName))
    (hwait : ∀ t, ActionCall.Consistent actionName (.waiting (wait t))) :
    Ensures (State.Books readers) (startTopic env info topicName lookedUp wait next)
      (ActionCall.Consistent actionName) := by
  unfold startTopic
  refine (ensures_ignores (Q := fun _ => True) (ignores_fillTopicStruct env topicName info)
    fun _ _ _ _ => trivial).bind fun r _ => ?_
  split
  · exact .pure trivial
  · refine ensures_look.bind fun reader _ => ?_
    split
    · exact hnext _
    · exact (ensures_change (fun _ hp => hp) fun _ => rfl).bind fun e _ =>
        .pure (hwait _)

lemma ensures_withFeedback (info : ActionInfo) (action : ActionDiscovered) (topic : DdsTopic) :
    Ensures (State.Books readers) (withFeedback env actionName info action topic)
      (ActionCall.Consistent actionName) :=
  ensures_startTopic (fun _ => ensures_enterAction _) fun _ => trivial

lemma ensures_startFeedback (info : ActionInfo) (action : ActionDiscovered) :
    Ensures (State.Books readers) (startFeedback env actionName info action)
      (ActionCall.Consistent actionName) :=
  ensures_startTopic (ensures_withFeedback info action) fun _ => trivial

lemma ensures_startPart (info : ActionInfo) (action : ActionDiscovered) (t : ActionType) :
    Ensures (State.Books readers) (startPart env actionName info action t)
      (ActionCall.Consistent actionName) := by
  unfold startPart
  refine (ensures_fillServiceType _).bind fun r hr => ?_
  split
  · exact .pure trivial
  · next v =>
    refine ensures_look.bind fun reader _ => ?_
    split
    · exact .pure trivial
    · exact (ensures_change (fun _ hp => hp) fun _ => rfl).bind fun e _ =>
        .pure (hr v rfl)

lemma ensures_nextPart (info : ActionInfo) (action : ActionDiscovered) (t : ActionType) :
    Ensures (State.Books readers) (nextPart env actionName info action t)
      (ActionCall.Consistent actionName) := by
  unfold nextPart
  split
  · exact ensures_startPart info action .cancel
  · exact ensures_startPart info action .result
  · exact ensures_startFeedback info action

lemma ensures_wakeAction {timedOut : Bool} {w : ActionWait}
    (hw : ActionCall.Consistent actionName (.waiting w)) :
    Ensures (State.Books readers) (wakeAction env actionName timedOut w)
      (ActionCall.Consistent actionName) := by
  cases w with
  | service info action t v e =>
    change Ensures (State.Books readers) (wakePart env actionName timedOut info action t v e) _
    unfold wakePart
    refine ensures_look.bind fun reader _ => ?_
    split
    · refine (ensures_insertService (ServiceDiscovered.Consistent.serving hw _ _ (some e))).bind
        fun _ _ => ?_
      exact ensures_look.bind fun ref _ =>
        ensures_nextPart info _ t
    · refine .pure ?_
      split
      · trivial
      · exact hw
  | feedback info action topic =>
    exact ensures_wakeTopic (ensures_withFeedback info action) fun _ => trivial
  | status action topic =>
    exact ensures_wakeTopic (fun _ => ensures_enterAction _) fun _ => trivial

lemma ensures_eraseService (name : Str) :
    Ensures (State.Books readers) (eraseService name) fun _ => True := by
  refine ensures_change (fun p hp => ?_) fun p => ?_
  · dsimp only
    split
    · intro n v hv
      rw [ServiceMap.find_erase] at hv
      split at hv
      · cases hv
      · exact hp n v hv
    · exact hp
  · dsimp only
    split
    · rfl
    · rfl

lemma ensures_startQuery : Ensures (State.Books readers) (startQuery env actionName)
    (ActionCall.Consistent actionName) := by
  unfold startQuery
  split
  · exact .pure trivial
  · split
    · exact .pure trivial
    · exact (ensures_eraseService _).bind fun _ _ => (ensures_eraseService _).bind fun _ _ =>
        (ensures_eraseService _).bind fun _ _ => ensures_startPart _ _ .goal

lemma Participant.Consistent.reannounce {p : Participant} (h : p.Consistent) (a : ActionDiscovered)
    {goal result cancel : ServiceDiscovered} (hgoal : ∃ n, goal.Consistent n)
    (hresult : ∃ n, result.Consistent n) (hcancel : ∃ n, cancel.Consistent n) :
    (p.reannounce actionName a goal result cancel).Consistent := by
  have hflag : ∀ v : ServiceDiscovered, (∃ n, v.Consistent n) →
      ({ v with enablerAsServer := true } : ServiceDiscovered).Consistent v.serviceName := by
    rintro v ⟨n, hv⟩
    have hserving := hv.serving true v.externalServer v.endpointRequest
    exact hv.name ▸ hserving
  exact ((h.set (hflag goal hgoal)).set (hflag result hresult)).set (hflag cancel hcancel)

lemma ensures_startAction : Ensures (State.Books readers) (startAction env actionName protocol)
    (ActionCall.Consistent actionName) := by
  unfold startAction
  refine .ite (.pure trivial) ((ensures_read (f := id) fun _ hp => hp).bind fun p hp => ?_)
  split
  · exact ensures_startQuery
  · next a _ =>
    refine .ite (.pure trivial) ?_
    split
    · next goal result cancel hgoal hresult hcancel =>
      exact (ensures_change (fun _ hq => hq.reannounce a (hp.lock hgoal) (hp.lock hresult)
        (hp.lock hcancel)) fun _ => rfl).bind fun _ _ => .pure trivial
    · exact (ensures_change (fun _ hp => hp) fun _ => rfl).bind fun _ _ =>
        ensures_startQuery

end Pieces

/-! ### The system -/

/-- A client of the enabler, which may announce a service or an action. -/
inductive Client
  | idle
  | service (serviceName : Str) (call : ServiceCall)
  | action (actionName : Str) (call : ActionCall)

namespace Client

/-- In the wait of `create_topic_writer_nts_`. -/
def waits : Client → Bool
  | .service _ (.waiting _) | .action _ (.waiting _) => true
  | _ => false

def Consistent : Client → Prop
  | .idle => True
  | .service serviceName call => call.Consistent serviceName
  | .action actionName call => call.Consistent actionName

end Client

/-- What may happen: a client announces something, a wait of one wakes up, a reader is created,
something is revoked, or whatever else happens, which is not about services, actions and readers. -/
inductive DiscoveryOp (κ : Type)
  | announceService (k : κ) (env : Env) (serviceName : Str) (protocol : Protocol)
  | announceAction (k : κ) (env : Env) (actionName : Str) (protocol : Protocol)
  | wake (k : κ) (env : Env) (timedOut : Bool)
  | createReader (env : Env) (topic : DdsTopic)
  | revokeService (serviceName : Str)
  | revokeAction (actionName : Str)
  | elsewhere (s : State)

/-- Announcements, and whatever else happens, leave the readers to others. -/
def DiscoveryOp.Announces {κ : Type} : DiscoveryOp κ → Prop
  | .announceService .. | .announceAction .. | .wake .. | .elsewhere _ => True
  | .createReader .. | .revokeService _ | .revokeAction _ => False

/-- The enabler and its clients. -/
abbrev Clients (κ : Type) := Threads κ State Client

namespace Clients

variable {κ : Type} [DecidableEq κ]

def step (c : Clients κ) : DiscoveryOp κ → Clients κ
  | .announceService k env serviceName protocol =>
    if (c.thread k).waits then c
    else c.move k .idle (.service serviceName <$> startService env serviceName protocol)
  | .announceAction k env actionName protocol =>
    if (c.thread k).waits then c
    else c.move k .idle (.action actionName <$> startAction env actionName protocol)
  | .wake k env timedOut =>
    match c.thread k with
    | .service serviceName (.waiting w) =>
      c.move k .idle (.service serviceName <$> wakeService serviceName timedOut w)
    | .action actionName (.waiting w) =>
      c.move k .idle (.action actionName <$> wakeAction env actionName timedOut w)
    | _ => c
  | .createReader env topic => c.disturb (discard (DdsEnabler.createReader env topic))
  | .revokeService serviceName => c.disturb (discard (DdsEnabler.revokeService serviceName))
  | .revokeAction actionName => c.disturb (discard (DdsEnabler.revokeAction actionName))
  | .elsewhere s =>
    { c with
      shared := { s with
        participant := { c.shared.participant with
          endpoints := s.participant.endpoints, nextGuid := s.participant.nextGuid } } }

/-- An enabler that has not been asked for anything. -/
def start (handler : Handler) : Clients κ := ⟨{ handler }, fun _ => .idle⟩

/-- The entries are consistent, and those that clients wait to enter. -/
abbrev Consistent (c : Clients κ) : Prop :=
  Throughout (fun s : State => s.participant.Consistent) Client.Consistent c

lemma books_step {c : Clients κ} (h : c.Consistent) {op : DiscoveryOp κ}
    (hop : op.Announces) :
    Throughout (State.Books c.shared.participant.readers) Client.Consistent (step c op) := by
  have hbooks : Throughout (State.Books c.shared.participant.readers) Client.Consistent c :=
    ⟨⟨h.shared, rfl⟩, h.threads⟩
  cases op with
  | announceService k env serviceName protocol =>
    simp only [step]
    split
    · exact hbooks
    · exact hbooks.move (ensures_startService.map _ fun _ h => h) trivial
  | announceAction k env actionName protocol =>
    simp only [step]
    split
    · exact hbooks
    · exact hbooks.move (ensures_startAction.map _ fun _ h => h) trivial
  | wake k env timedOut =>
    have hk := h.threads k
    simp only [step]
    split
    · next serviceName w hw =>
      rw [hw] at hk
      exact hbooks.move ((ensures_wakeService hk).map _ fun _ h => h) trivial
    · next actionName w hw =>
      rw [hw] at hk
      exact hbooks.move ((ensures_wakeAction hk).map _ fun _ h => h) trivial
    · exact hbooks
  | elsewhere s => exact ⟨⟨h.shared, rfl⟩, h.threads⟩
  | createReader env topic => exact hop.elim
  | revokeService serviceName => exact hop.elim
  | revokeAction actionName => exact hop.elim

lemma consistent_step (c : Clients κ) (op : DiscoveryOp κ) (h : c.Consistent) :
    (step c op).Consistent := by
  have hannounces : op.Announces → (step c op).Consistent := fun hop =>
    ⟨(books_step h hop).shared.consistent, (books_step h hop).threads⟩
  cases op with
  | announceService k env serviceName protocol => exact hannounces trivial
  | announceAction k env actionName protocol => exact hannounces trivial
  | wake k env timedOut => exact hannounces trivial
  | elsewhere s => exact hannounces trivial
  | createReader env topic =>
    refine ⟨?_, h.threads⟩
    simp only [step, Threads.disturb, after_discard]
    exact h.shared.createReader env topic
  | revokeService serviceName => exact ⟨h.shared.revokeServiceNts serviceName, h.threads⟩
  | revokeAction actionName => exact ⟨h.shared.revokeAction actionName, h.threads⟩

omit [DecidableEq κ] in
lemma consistent_start (handler : Handler) : (start handler : Clients κ).Consistent := by
  refine ⟨fun name v hv => ?_, fun _ => trivial⟩
  simp [start, ServiceMap.find] at hv

/-- **What has been discovered can be read**: in whatever order the pieces of the calls run, every
entry is consistent, and what a discovery completes is there. -/
theorem discovered_can_be_read (handler : Handler) (w : List (DiscoveryOp κ)) :
    (run step (start handler) w).shared.participant.Consistent ∧
      ∀ env topic, Retrieves env topic (run step (start handler) w).shared := by
  have h := run_inv_all consistent_step (consistent_start handler) w
  exact ⟨h.shared, retrieves h.shared⟩

end Clients

end DdsEnabler
