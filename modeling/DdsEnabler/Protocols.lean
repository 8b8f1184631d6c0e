import DdsEnabler.Discovery
import DdsEnabler.Dispatch
import DdsEnabler.ServiceServer

/-!
Services of two protocols that share a name.

A service is entered under its bare name, which is read in the names of both protocols alike.
Whichever request topic and whichever reply topic comes in first is kept, and nothing compares
their protocols.
-/

namespace DdsEnabler

open Exec Runs Tables RpcInfo

/-! ### The topics of a service -/

/-- The topic is entered as the request or the reply of the service. -/
def Env.Hears (env : Env) (ty : ServiceType) (n : Str) (topic : DdsTopic) : Prop :=
  env.isTypeObjectTopic topic = false ∧ topic.discoverer ≠ env.id ∧
    (RpcInfo.ofTopic topic.topicName).serviceType = ty ∧
      (RpcInfo.ofTopic topic.topicName).serviceName = n

instance (env : Env) (ty : ServiceType) (n : Str) (topic : DdsTopic) :
    Decidable (env.Hears ty n topic) := inferInstanceAs (Decidable (_ ∧ _ ∧ _ ∧ _))

/-- The first request or reply topic of a service. -/
def firstTopic (env : Env) (ty : ServiceType) (n : Str) (ts : List DdsTopic) : Option DdsTopic :=
  ts.find? (env.Hears ty n)

def DdsTopic.protocol (topic : DdsTopic) : Protocol := (RpcInfo.ofTopic topic.topicName).protocol

namespace ServiceDiscovered

variable {v : ServiceDiscovered} {topic : DdsTopic} {ty ty' : ServiceType}

/-- The first topic of a kind is kept. -/
lemma getTopic_discover (hty : ty ≠ .none) (hty' : ty' ≠ .none) :
    (v.discover topic ty).getTopic ty' =
      if ty' = ty then some ((v.getTopic ty).getD topic) else v.getTopic ty' := by
  have hcomplete : ∀ w : ServiceDiscovered, w.complete.2.getTopic ty' = w.getTopic ty' := by
    intro w
    unfold complete
    split
    · split <;> cases ty' <;> rfl
    · rfl
  have hkeep : (v.discover topic ty).getTopic ty' = (v.addTopic topic ty).2.getTopic ty' := by
    unfold discover
    split <;> cases ty' <;> rfl
  rw [hkeep]
  cases ty with
  | none => exact absurd rfl hty
  | request =>
    cases hreq : v.requestDiscovered <;> cases ty' <;>
      simp_all [addTopic, getTopic]
  | reply =>
    cases hrep : v.replyDiscovered <;> cases ty' <;>
      simp_all [addTopic, getTopic]

lemma discover_fields (v : ServiceDiscovered) :
    (v.discover topic ty).serviceName = v.serviceName ∧
      (v.discover topic ty).protocol = v.protocol := by
  unfold discover addTopic complete
  repeat' split
  all_goals exact ⟨rfl, rfl⟩

/-- What is notified has both of its topics. -/
lemma addTopic_true (h : (v.addTopic topic ty).1 = true) :
    ((v.addTopic topic ty).2.getTopic .request).isSome ∧
      ((v.addTopic topic ty).2.getTopic .reply).isSome ∧
        (v.addTopic topic ty).2.getService = .ok ⟨v.serviceName,
          (v.addTopic topic ty).2.topicRequest, (v.addTopic topic ty).2.topicReply⟩ := by
  have hcomplete : ∀ w : ServiceDiscovered, w.complete.1 = true →
      (w.complete.2.getTopic .request).isSome ∧ (w.complete.2.getTopic .reply).isSome ∧
        w.complete.2.getService =
          .ok ⟨w.serviceName, w.complete.2.topicRequest, w.complete.2.topicReply⟩ := by
    intro w hw
    unfold complete at hw ⊢
    split
    · split <;> simp_all [getTopic, getService]
    · simp_all
  cases ty with
  | request =>
    simp only [addTopic] at h ⊢
    split at h
    · cases h
    · next hnot => simpa [hnot] using hcomplete _ h
  | _ =>
    simp only [addTopic] at h ⊢
    split at h
    · cases h
    · next hnot => simpa [hnot] using hcomplete _ h

/-- Its two topics, if both are there, are of one protocol, which is the service's own. -/
def Unmixed (v : ServiceDiscovered) : Prop :=
  ∀ q r, v.getTopic .request = some q → v.getTopic .reply = some r →
    q.protocol = r.protocol ∧ v.protocol = q.protocol

end ServiceDiscovered

/-! ### What a reader enters -/

/-- Services have requests and replies only, and what is one belongs to a service or an action. -/
def RpcInfo.Consistent (i : RpcInfo) : Prop :=
  i.serviceType = .none ∧ i.rpcType ≠ .service ∨ i.serviceType ≠ .none ∧ i.rpcType ≠ .none

lemma consistent_ofService (i : RpcInfo) {ty : ServiceType} (base : Str) (hty : ty ≠ .none) :
    (i.ofService ty base).Consistent := by
  right
  unfold RpcInfo.ofService
  split <;> simp [hty]

lemma consistent_ofTopicSuffix {i : RpcInfo} (h : i.serviceType = .none) (h' : i.rpcType = .none)
    (base : Str) : (i.ofTopicSuffix base).Consistent := by
  left
  unfold RpcInfo.ofTopicSuffix
  split
  · simp [h]
  · split <;> simp [h, h']

lemma ofTopic_cases {P : RpcInfo → Prop} (t : Str) (hblank : ∀ p, P (blank t p))
    (hservice : ∀ p ty base, ty ≠ .none → P ((blank t p).ofService ty base))
    (htopic : ∀ p base, P ((blank t p).ofTopicSuffix base)) : P (RpcInfo.ofTopic t) := by
  rw [ofTopic_eq]
  rcases hp : detectProtocol t with _ | _ | _
  · rw [extractRpcInfo_ros]
    split
    · exact hservice _ _ _ (by simp)
    · split
      · exact hservice _ _ _ (by simp)
      · exact htopic _ _
  · unfold extractRpcInfo
    change P (if _ then _ else if _ then _ else blank t .dds)
    split
    · exact hservice _ _ _ (by simp)
    · split
      · exact hservice _ _ _ (by simp)
      · exact hblank .dds
  · exact hblank .unknown

lemma consistent_ofTopic (t : Str) : (RpcInfo.ofTopic t).Consistent := by
  refine ofTopic_cases t (fun p => ?_) (fun p ty base hty => ?_) fun p base => ?_
  · exact .inl ⟨rfl, by simp [blank]⟩
  · exact consistent_ofService _ base hty
  · exact consistent_ofTopicSuffix rfl rfl base

lemma serviceName_ofTopic {t : Str} (haction : (RpcInfo.ofTopic t).rpcType = .action)
    (hservice : (RpcInfo.ofTopic t).serviceType ≠ .none) :
    (RpcInfo.ofTopic t).serviceName =
        partName (RpcInfo.ofTopic t).actionName (RpcInfo.ofTopic t).actionType ∧
      isServicePart (RpcInfo.ofTopic t).actionType := by
  revert haction hservice
  refine ofTopic_cases (P := fun i => i.rpcType = .action → i.serviceType ≠ .none →
    i.serviceName = partName i.actionName i.actionType ∧ isServicePart i.actionType) t
    (fun p => ?_) (fun p ty base hty => ?_) fun p base => ?_
  · intro h
    cases h
  · unfold RpcInfo.ofService
    split
    · next a ty' hpart => exact fun _ _ => actionPart_eq_some hpart
    · intro h
      cases h
  · intro _ h
    refine absurd ?_ h
    unfold RpcInfo.ofTopicSuffix
    split
    · rfl
    · split
      · rfl
      · rfl

section Entered

variable {env : Env} {topic : DdsTopic} {s : State}

/-- What is left after the discovery of a topic: the services, and whom it notified. -/
structure Enters (info : RpcInfo) (topic : DdsTopic) (s t : State) : Prop where
  services : t.participant.services =
    if info.serviceType ≠ .none then (s.participant.serviceDiscovered info topic).2.services
    else s.participant.services
  notified : Tells (fun e => ∀ n i, e = .serviceNotification n i →
    info.serviceType ≠ .none ∧ (s.participant.serviceDiscovered info topic).1 = true ∧
      ∃ rpc, (s.participant.serviceDiscovered info topic).2.getService info.serviceName = .ok rpc ∧
        rpc.serviceName = n) s t

/-- An event that notifies of no service. -/
def Event.NotService (e : Event) : Prop := ∀ n i, e ≠ .serviceNotification n i

lemma Enters.of_quiet {info : RpcInfo} {t u : State}
    (hservices : t.participant.services =
      if info.serviceType ≠ .none then (s.participant.serviceDiscovered info topic).2.services
      else s.participant.services)
    (htrace : t.trace = s.trace) (hu : u.participant = t.participant)
    (htells : Tells Event.NotService t u) : Enters info topic s u where
  services := by rw [hu, hservices]
  notified := by
    obtain ⟨es, hes, hnot⟩ := htells
    exact ⟨es, by rw [hes, htrace], fun e he n i hn => absurd hn (hnot e he n i)⟩

lemma tells_notify {b : Bool} {e : Event} (h : e.NotService) (s : State) :
    ∃ u, (notify b e).run s = .ok () u ∧ u.participant = s.participant ∧
      Tells Event.NotService s u := by
  refine ⟨_, notify_run b e s, rfl, _, rfl, fun e' he' => ?_⟩
  split at he'
  · rwa [List.mem_singleton.mp he']
  · cases he'

lemma enters_topic {info : RpcInfo} (hrpc : info.rpcType = .none)
    (hnone : info.serviceType = .none) (s : State) :
    Enters info topic s (after (notifyDiscovery env info topic) s) := by
  obtain ⟨u, hrun, hsame, htells⟩ := tells_notify (b := env.callbacks.topicNotification)
    (e := .topicNotification topic.topicName topic.info) (by simp [Event.NotService]) s
  have hrun' : (addTopic env topic).run s = .ok () u := hrun
  unfold notifyDiscovery
  simp only [hrpc]
  rw [after_bind_ok hrun']
  exact Enters.of_quiet (by simp [hnone]) rfl hsame htells

lemma enters_service {info : RpcInfo} (hrpc : info.rpcType = .service)
    (hsome : info.serviceType ≠ .none) (s : State) :
    Enters info topic s (after (notifyDiscovery env info topic) s) := by
  set t : State := { s with participant := (s.participant.serviceDiscovered info topic).2 } with ht
  have hservices : t.participant.services = if info.serviceType ≠ .none then
      (s.participant.serviceDiscovered info topic).2.services else s.participant.services := by
    rw [if_pos hsome]
  have hquiet : Enters info topic s t := Enters.of_quiet hservices rfl rfl (refl_of _ t)
  unfold notifyDiscovery
  simp only [hrpc]
  rw [after_bind_ok (onParticipant_run _ _), ← ht]
  rcases hfound : (s.participant.serviceDiscovered info topic).1
  · exact hquiet
  · rw [if_pos rfl, after_bind_ok (readParticipant_run _ _)]
    rcases hget : t.participant.getService info.serviceName with e | rpc
    · exact hquiet
    · have hrun : (addService env rpc).run t = .ok () (t.log _) := notify_run _ _ t
      simp only
      rw [after_bind_ok hrun]
      refine ⟨hservices, _, rfl, fun e he n i hn => ?_⟩
      split at he
      · rw [List.mem_singleton.mp he] at hn
        cases hn
        exact ⟨hsome, hfound, rpc, hget, rfl⟩
      · cases he

lemma enters_action {info : RpcInfo} (hrpc : info.rpcType = .action) (s : State) :
    Enters info topic s (after (notifyDiscovery env info topic) s) := by
  set t : State := { s with participant := (s.participant.actionDiscovered info topic).2 } with ht
  have hservices : t.participant.services = if info.serviceType ≠ .none then
      (s.participant.serviceDiscovered info topic).2.services else s.participant.services := by
    rw [ht]
    unfold Participant.actionDiscovered Participant.enterTopic
    by_cases hs : info.serviceType ≠ .none
    · simp only [hs, ne_eq, not_false_eq_true, if_true]
      split <;> rfl
    · simp only [hs, if_false]
  have hquiet : Enters info topic s t := Enters.of_quiet hservices rfl rfl (refl_of _ t)
  unfold notifyDiscovery
  simp only [hrpc]
  rw [after_bind_ok (onParticipant_run _ _), ← ht]
  rcases hfound : (s.participant.actionDiscovered info topic).1
  · exact hquiet
  · rw [if_pos rfl, after_bind_ok (readParticipant_run _ _)]
    rcases hget : t.participant.getAction info.actionName with e | action
    · exact hquiet
    · obtain ⟨u, hrun, hsame, htells⟩ := tells_notify (b := env.callbacks.actionNotification)
        (e := .actionNotification action.actionName action.info) (by simp [Event.NotService]) t
      have hrun' : (addAction env action).run t = .ok () u := hrun
      simp only
      rw [after_bind_ok hrun']
      exact Enters.of_quiet hservices rfl hsame htells

lemma enters_notifyDiscovery (env : Env) (topic : DdsTopic) (s : State) :
    Enters (.ofTopic topic.topicName) topic s
      (after (notifyDiscovery env (.ofTopic topic.topicName) topic) s) := by
  rcases hrpc : (RpcInfo.ofTopic topic.topicName).rpcType
  · rcases consistent_ofTopic topic.topicName with ⟨h, -⟩ | ⟨-, h⟩
    · exact enters_topic hrpc h s
    · exact absurd hrpc h
  · rcases consistent_ofTopic topic.topicName with ⟨-, h⟩ | ⟨h, -⟩
    · exact absurd hrpc h
    · exact enters_service hrpc h s
  · exact enters_action hrpc s

lemma createReader_services (env : Env) (topic : DdsTopic) (s : State) :
    if env.isTypeObjectTopic topic = false ∧ topic.discoverer ≠ env.id then
      Enters (.ofTopic topic.topicName) topic s (after (createReader env topic) s)
    else
      (after (createReader env topic) s).participant.services = s.participant.services ∧
        (after (createReader env topic) s).trace = s.trace := by
  by_cases hforeign : env.isTypeObjectTopic topic = false ∧ topic.discoverer ≠ env.id
  · rw [if_pos hforeign]
    exact after_createReader topic (P := Enters (.ofTopic topic.topicName) topic s) env s
      (fun h => absurd hforeign h) (fun _ => enters_notifyDiscovery env topic s)
      fun t readers ht => ⟨ht.services, ht.notified⟩
  · rw [if_neg hforeign]
    exact after_createReader topic
      (P := fun t => t.participant.services = s.participant.services ∧ t.trace = s.trace) env s
      (fun _ => ⟨rfl, rfl⟩) (fun h => absurd h hforeign) fun t readers ht => ht

end Entered

/-! ### The services after a sequence of topics -/

/-- What an entry tells of the topics that came in. -/
structure EntryFor (env : Env) (ts : List DdsTopic) (n : Str) (v : ServiceDiscovered) : Prop where
  name : v.serviceName = n
  topics : ∀ ty, ty ≠ .none → v.getTopic ty = firstTopic env ty n ts
  protocol : ∃ ty topic, ty ≠ .none ∧ firstTopic env ty n ts = some topic ∧
    v.protocol = topic.protocol

structure EntriesFor (env : Env) (ts : List DdsTopic) (m : ServiceMap) : Prop where
  entry : ∀ n v, m.find n = some v → EntryFor env ts n v
  none : ∀ n, m.find n = none → ∀ ty, ty ≠ .none → firstTopic env ty n ts = none

section Sequence

variable {env : Env} {ts : List DdsTopic} {t : DdsTopic} {n : Str} {ty : ServiceType}

lemma firstTopic_snoc : firstTopic env ty n (ts ++ [t]) =
    (firstTopic env ty n ts).or (if env.Hears ty n t then some t else none) := by
  unfold firstTopic
  rw [List.find?_append]
  by_cases h : env.Hears ty n t
  · simp [h]
  · simp [h]

lemma firstTopic_append {topic : DdsTopic} (h : firstTopic env ty n ts = some topic)
    (ts' : List DdsTopic) : firstTopic env ty n (ts ++ ts') = some topic := by
  unfold firstTopic at h ⊢
  rw [List.find?_append, h, Option.some_or]

lemma firstTopic_skip (h : ¬ env.Hears ty n t) :
    firstTopic env ty n (ts ++ [t]) = firstTopic env ty n ts := by
  rw [firstTopic_snoc, if_neg h, Option.or_none]

lemma EntryFor.skip {v : ServiceDiscovered} (h : EntryFor env ts n v)
    (hnot : ∀ ty, ty ≠ .none → ¬ env.Hears ty n t) : EntryFor env (ts ++ [t]) n v where
  name := h.name
  topics ty hty := by rw [firstTopic_skip (hnot ty hty), h.topics ty hty]
  protocol := by
    obtain ⟨ty, topic, hty, hfirst, hprotocol⟩ := h.protocol
    exact ⟨ty, topic, hty, firstTopic_append hfirst [t], hprotocol⟩

lemma EntriesFor.skip {m : ServiceMap} (h : EntriesFor env ts m)
    (hnot : ∀ n ty, ty ≠ .none → ¬ env.Hears ty n t) : EntriesFor env (ts ++ [t]) m where
  entry n v hv := (h.entry n v hv).skip (hnot n)
  none n hn ty hty := by rw [firstTopic_skip (hnot n ty hty), h.none n hn ty hty]

lemma topics_discover {v : ServiceDiscovered}
    (h : ∀ ty', ty' ≠ .none → v.getTopic ty' = firstTopic env ty' n ts) (hty : ty ≠ .none)
    (ht : env.Hears ty n t) : ∀ ty', ty' ≠ .none →
      (v.discover t ty).getTopic ty' = firstTopic env ty' n (ts ++ [t]) := by
  intro ty' hty'
  rw [ServiceDiscovered.getTopic_discover hty hty', firstTopic_snoc]
  by_cases heq : ty' = ty
  · subst heq
    rw [if_pos rfl, if_pos ht, h ty' hty']
    cases firstTopic env ty' n ts <;> rfl
  · have hnot : ¬ env.Hears ty' n t := fun h' => heq (h'.2.2.1.symm.trans ht.2.2.1)
    rw [if_neg heq, if_neg hnot, Option.or_none, h ty' hty']

lemma EntryFor.discover {v : ServiceDiscovered} (h : EntryFor env ts n v)
    (hty : ty ≠ .none) (ht : env.Hears ty n t) : EntryFor env (ts ++ [t]) n (v.discover t ty) where
  name := v.discover_fields.1.trans h.name
  topics := topics_discover h.topics hty ht
  protocol := by
    obtain ⟨ty', topic, hty', hfirst, hprotocol⟩ := h.protocol
    exact ⟨ty', topic, hty', firstTopic_append hfirst [t],
      v.discover_fields.2.trans hprotocol⟩

lemma entryFor_new (h : ∀ ty, ty ≠ .none → firstTopic env ty n ts = none) (hty : ty ≠ .none)
    (ht : env.Hears ty n t) : EntryFor env (ts ++ [t]) n
      (ServiceDiscovered.discover { serviceName := n, protocol := t.protocol } t ty) where
  name := (ServiceDiscovered.discover_fields _).1
  topics := by
    refine topics_discover (fun ty' hty' => ?_) hty ht
    rw [h ty' hty']
    cases ty' <;> rfl
  protocol := by
    refine ⟨ty, t, hty, ?_, (ServiceDiscovered.discover_fields _).2⟩
    rw [firstTopic_snoc, h ty hty, if_pos ht, Option.none_or]

lemma entriesFor_snoc {s : State} (h : EntriesFor env ts s.participant.services) :
    EntriesFor env (ts ++ [t]) (after (createReader env t) s).participant.services := by
  have hafter := createReader_services env t s
  split at hafter
  · next hforeign =>
    rw [hafter.services]
    by_cases hty : (RpcInfo.ofTopic t.topicName).serviceType ≠ .none
    · rw [if_pos hty, serviceDiscovered_services]
      set name := (RpcInfo.ofTopic t.topicName).serviceName with hname
      set kind := (RpcInfo.ofTopic t.topicName).serviceType with hkind
      have hears : env.Hears kind name t := ⟨hforeign.1, hforeign.2, rfl, rfl⟩
      have hother : ∀ n, n ≠ name → ∀ ty, ty ≠ .none → ¬ env.Hears ty n t :=
        fun n hn ty _ h => hn h.2.2.2.symm
      refine ⟨fun n v hv => ?_, fun n hn ty hty => ?_⟩
      · rw [ServiceMap.find_set] at hv
        split at hv
        · next heq =>
          subst heq
          cases hv
          rcases hfind : s.participant.services.find name with _ | v
          · exact entryFor_new (h.none name hfind) hty hears
          · exact (h.entry name v hfind).discover hty hears
        · next hne => exact (h.entry n v hv).skip (hother n hne)
      · rw [ServiceMap.find_set] at hn
        split at hn
        · cases hn
        · next hne => rw [firstTopic_skip (hother n hne ty hty), h.none n hn ty hty]
    · rw [if_neg hty]
      exact h.skip fun n ty hty' hears => hty (hears.2.2.1 ▸ hty')
  · next hforeign =>
    rw [hafter.1]
    exact h.skip fun n ty _ hears => hforeign ⟨hears.1, hears.2.1⟩

lemma entriesFor_discover {s : State} (h : s.participant.services.services = ∅)
    (ts : List DdsTopic) : EntriesFor env ts (discover env s ts).participant.services := by
  induction ts using List.reverseRecOn with
  | nil =>
    have hnone : ∀ n, s.participant.services.find n = none := by
      intro n
      rw [ServiceMap.find, h]
      rfl
    refine ⟨fun n v hv => ?_, fun n hn ty hty => rfl⟩
    rw [show discover env s [] = s from rfl, hnone] at hv
    cases hv
  | append_singleton ts t ih =>
    rw [discover_snoc]
    exact entriesFor_snoc ih

end Sequence

/-! ### Mixed services -/

/-- The first request topic and the first reply topic of every service are of one protocol. -/
def FirstTopicsAgree (env : Env) (ts : List DdsTopic) : Prop :=
  ∀ n q r, firstTopic env .request n ts = some q → firstTopic env .reply n ts = some r →
    q.protocol = r.protocol

/-- In every state, the services with both topics are unmixed, and what is notified as a service
has been seen with a request and a reply topic of one protocol. -/
structure NeverMixes (env : Env) (s : State) (ts : List DdsTopic) : Prop where
  entries : ∀ pre, pre <+: ts → ∀ n v,
    (discover env s pre).participant.services.find n = some v → v.Unmixed
  notified : ∀ pre t, pre ++ [t] <+: ts → ∀ n i,
    .serviceNotification n i ∈ newEvents (discover env s pre) (discover env s (pre ++ [t])) →
      ∃ q ∈ pre ++ [t], ∃ r ∈ pre ++ [t], env.Hears .request n q ∧ env.Hears .reply n r ∧
        q.protocol = r.protocol

section Mixed

variable {env : Env} {s : State} {ts : List DdsTopic}

lemma EntryFor.unmixed_iff {n : Str} {v : ServiceDiscovered} (h : EntryFor env ts n v) :
    v.Unmixed ↔ ∀ q r, firstTopic env .request n ts = some q → firstTopic env .reply n ts = some r →
      q.protocol = r.protocol := by
  have hreq := h.topics .request (by simp)
  have hrep := h.topics .reply (by simp)
  constructor
  · intro hv q r hq hr
    exact (hv q r (hreq.trans hq) (hrep.trans hr)).1
  · intro hagree q r hq hr
    have hsame := hagree q r (hreq.symm.trans hq) (hrep.symm.trans hr)
    refine ⟨hsame, ?_⟩
    obtain ⟨ty, topic, hty, hfirst, hprotocol⟩ := h.protocol
    have htopic := (h.topics ty hty).trans hfirst
    cases ty with
    | none => exact absurd rfl hty
    | request =>
      rw [hq] at htopic
      rw [hprotocol, Option.some.inj htopic]
    | reply =>
      rw [hr] at htopic
      rw [hprotocol, ← Option.some.inj htopic, hsame]

lemma entry_of_notified {t : DdsTopic} {n : Str} {i : ServiceInfo}
    (h : EntriesFor env ts s.participant.services)
    (hi : .serviceNotification n i ∈ newEvents s (after (createReader env t) s)) :
    ∃ v, EntryFor env (ts ++ [t]) n v ∧ (v.getTopic .request).isSome ∧
      (v.getTopic .reply).isSome := by
  have hafter := createReader_services env t s
  have hentries := entriesFor_snoc (t := t) h
  split at hafter
  swap
  · rw [newEvents_eq (by rw [hafter.2, List.append_nil])] at hi
    cases hi
  obtain ⟨es, htrace, hes⟩ := hafter.notified
  rw [newEvents_eq htrace] at hi
  obtain ⟨hty, hfound, rpc, hget, rfl⟩ := hes _ hi n i rfl
  set info := RpcInfo.ofTopic t.topicName with hinfo
  set v₀ : ServiceDiscovered := (s.participant.services.find info.serviceName).getD
    { serviceName := info.serviceName, protocol := info.protocol } with hv₀
  have hadded : (v₀.addTopic t info.serviceType).1 = true := hfound
  have hfind : (s.participant.serviceDiscovered info t).2.services.find info.serviceName =
      some (v₀.discover t info.serviceType) := by
    rw [serviceDiscovered_services, ServiceMap.find_set, if_pos rfl]
  have hentry : EntryFor env (ts ++ [t]) info.serviceName (v₀.discover t info.serviceType) := by
    refine hentries.entry _ _ ?_
    rw [hafter.services, if_pos hty, hfind]
  obtain ⟨hreq, hrep, hservice⟩ := ServiceDiscovered.addTopic_true hadded
  have hdiscover : v₀.discover t info.serviceType =
      { (v₀.addTopic t info.serviceType).2 with externalServer := true } := by
    rw [ServiceDiscovered.discover, if_pos hadded]
  have hname : rpc.serviceName = info.serviceName := by
    have hsame : (v₀.discover t info.serviceType).getService =
        (v₀.addTopic t info.serviceType).2.getService := by
      rw [hdiscover]
      rfl
    simp only [Participant.getService, hfind, hsame, hservice, Except.ok.injEq] at hget
    rw [← hget, ← hentry.name, v₀.discover_fields.1]
  rw [hname]
  refine ⟨_, hentry, ?_, ?_⟩
  · rw [hdiscover]
    exact hreq
  · rw [hdiscover]
    exact hrep

/-- **Services of different protocols never mix** exactly if for every service the first request
topic and the first reply topic that come in are of one protocol. -/
theorem never_mixes_iff (env : Env) (s : State) (h : s.participant.services.services = ∅)
    (ts : List DdsTopic) : NeverMixes env s ts ↔ FirstTopicsAgree env ts := by
  constructor
  · intro hmix n q r hq hr
    rcases hfind : (discover env s ts).participant.services.find n with _ | v
    · have hnone := (entriesFor_discover h ts).none n hfind .request (by simp)
      rw [hnone] at hq
      cases hq
    · have hentry := (entriesFor_discover h ts).entry n v hfind
      exact hentry.unmixed_iff.mp (hmix.entries ts List.prefix_rfl n v hfind) q r hq hr
  · intro hagree
    have hpre : ∀ pre, pre <+: ts → FirstTopicsAgree env pre := by
      rintro pre ⟨post, rfl⟩ n q r hq hr
      exact hagree n q r (firstTopic_append hq post) (firstTopic_append hr post)
    refine ⟨fun pre hp n v hv => ?_, fun pre t hp n i hi => ?_⟩
    · exact ((entriesFor_discover h pre).entry n v hv).unmixed_iff.mpr (hpre pre hp n)
    · rw [discover_snoc] at hi
      obtain ⟨v, hentry, hreq, hrep⟩ := entry_of_notified (entriesFor_discover h pre) hi
      rw [hentry.topics _ (by simp)] at hreq hrep
      obtain ⟨q, hq⟩ := Option.isSome_iff_exists.mp hreq
      obtain ⟨r, hr⟩ := Option.isSome_iff_exists.mp hrep
      have hheard : ∀ {ty topic}, firstTopic env ty n (pre ++ [t]) = some topic →
          topic ∈ pre ++ [t] ∧ env.Hears ty n topic :=
        fun hf => ⟨List.mem_of_find?_eq_some hf, by simpa using List.find?_some hf⟩
      exact ⟨q, (hheard hq).1, r, (hheard hr).1, (hheard hq).2, (hheard hr).2,
        hpre _ hp n q r hq hr⟩

/-- A request topic of ROS 2 and a reply topic of DDS. -/
def fooTopics : List DdsTopic :=
  [{ topicName := "rq/fooRequest".toList }, { topicName := "foo_Reply".toList }]

theorem never_mixes_iff_foo :
    NeverMixes .silent {} fooTopics ↔ FirstTopicsAgree .silent fooTopics :=
  never_mixes_iff .silent {} rfl fooTopics

/-- The two make one service, `foo`, which is notified. -/
theorem foo_mixed : ¬ NeverMixes .silent {} fooTopics := by
  intro h
  rcases hfind : (discover .silent {} fooTopics).participant.services.find "foo".toList with _ | v
  · have hsome : ((discover .silent {} fooTopics).participant.services.find "foo".toList).isSome =
        true := rfl
    rw [hfind] at hsome
    cases hsome
  · have hentry := (entriesFor_discover (s := {}) rfl fooTopics).entry _ v hfind
    have hagree := hentry.unmixed_iff.mp (h.entries fooTopics List.prefix_rfl _ v hfind)
    have hsame := hagree { topicName := "rq/fooRequest".toList } { topicName := "foo_Reply".toList }
      (by decide) (by decide)
    exact absurd hsame (by decide)

end Mixed

end DdsEnabler
