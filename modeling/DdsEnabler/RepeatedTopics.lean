import DdsEnabler.Bookkeeping

/-!
Topics of an action that are discovered more than once.

A service is notified by the topic that completes it, and passes over a topic that it has. An action
is checked after every topic of it, whether that is new or not; so once it is complete, every
further topic has it notified again.
-/

namespace DdsEnabler

open Exec Runs Tables RpcInfo

/-! ### Topics of an action -/

/-- What a topic is to its action: a request or a reply of a service, or the feedback or status. -/
def RpcInfo.part (i : RpcInfo) : ActionType × ServiceType := (i.actionType, i.serviceType)

/-- The topics of an action. -/
def topicParts : List (ActionType × ServiceType) :=
  [(.goal, .request), (.goal, .reply), (.result, .request), (.result, .reply),
    (.cancel, .request), (.cancel, .reply), (.feedback, .none), (.status, .none)]

/-- The name of the topic tells that it is one of the action's. -/
def DdsTopic.OfAction (topic : DdsTopic) (actionName : Str) : Prop :=
  (RpcInfo.ofTopic topic.topicName).rpcType = .action ∧
    (RpcInfo.ofTopic topic.topicName).actionName = actionName

/-- The name of the topic tells that it is the request or the reply of the service. -/
def DdsTopic.OfService (topic : DdsTopic) (serviceName : Str) : Prop :=
  (RpcInfo.ofTopic topic.topicName).rpcType = .service ∧
    (RpcInfo.ofTopic topic.topicName).serviceName = serviceName

/-- One of the topics is the part. -/
def HasPart (ts : List DdsTopic) (part : ActionType × ServiceType) : Prop :=
  ∃ topic ∈ ts, (RpcInfo.ofTopic topic.topicName).part = part

instance (topic : DdsTopic) (actionName : Str) : Decidable (topic.OfAction actionName) :=
  inferInstanceAs (Decidable (_ ∧ _))

instance (ts : List DdsTopic) (part : ActionType × ServiceType) : Decidable (HasPart ts part) :=
  inferInstanceAs (Decidable (∃ topic ∈ ts, _))

/-- Both topics of a service of the action are there. -/
def HasService (ts : List DdsTopic) (t : ActionType) : Prop :=
  HasPart ts (t, .request) ∧ HasPart ts (t, .reply)

instance (ts : List DdsTopic) (t : ActionType) : Decidable (HasService ts t) :=
  inferInstanceAs (Decidable (_ ∧ _))

/-- All topics of an action are there. -/
def HasAll (ts : List DdsTopic) : Prop := ∀ part ∈ topicParts, HasPart ts part

instance (ts : List DdsTopic) : Decidable (HasAll ts) :=
  inferInstanceAs (Decidable (∀ part ∈ topicParts, _))

section Topics

variable {ts : List DdsTopic} {topic : DdsTopic} {actionName : Str}
  {part : ActionType × ServiceType} {t : ActionType}

lemma hasPart_append (ts ts' : List DdsTopic) :
    HasPart (ts ++ ts') part ↔ HasPart ts part ∨ HasPart ts' part := by
  simp [HasPart, or_and_right, exists_or]

lemma hasPart_snoc : HasPart (ts ++ [topic]) part ↔
    HasPart ts part ∨ (RpcInfo.ofTopic topic.topicName).part = part := by
  rw [hasPart_append]
  simp [HasPart]

lemma hasAll_append (h : HasAll ts) (ts' : List DdsTopic) : HasAll (ts ++ ts') :=
  fun part hpart => (hasPart_append ts ts').mpr (.inl (h part hpart))

lemma hasAll_iff : HasAll ts ↔ HasService ts .goal ∧ HasService ts .result ∧
    HasService ts .cancel ∧ HasPart ts (.feedback, .none) ∧ HasPart ts (.status, .none) := by
  simp [HasAll, HasService, topicParts, and_assoc]

lemma DdsTopic.OfAction.cases (h : topic.OfAction actionName) :
    (∃ t ty, isServicePart t ∧ ty ≠ .none ∧
      (RpcInfo.ofTopic topic.topicName).part = (t, ty) ∧
      (RpcInfo.ofTopic topic.topicName).serviceName = partName actionName t) ∨
    (RpcInfo.ofTopic topic.topicName).part = (.feedback, .none) ∨
      (RpcInfo.ofTopic topic.topicName).part = (.status, .none) := by
  obtain ⟨haction, rfl⟩ := h
  by_cases hty : (RpcInfo.ofTopic topic.topicName).serviceType = .none
  · right
    revert haction hty
    refine ofTopic_cases (P := fun i => i.rpcType = .action → i.serviceType = .none →
      i.part = (.feedback, .none) ∨ i.part = (.status, .none)) topic.topicName
      (fun p h => by cases h) (fun p ty base hty h hnone => ?_) fun p base h hnone => ?_
    · rw [RpcInfo.serviceType_ofService] at hnone
      exact absurd hnone hty
    · unfold RpcInfo.ofTopicSuffix at h ⊢
      split
      · exact .inl rfl
      · split
        · exact .inr rfl
        · simp_all [RpcInfo.blank]
  · left
    obtain ⟨hname, hpart⟩ := serviceName_ofTopic haction hty
    exact ⟨_, _, hpart, hty, rfl, hname⟩

lemma DdsTopic.OfService.typed {serviceName : Str} (h : topic.OfService serviceName) :
    (RpcInfo.ofTopic topic.topicName).serviceType ≠ .none := by
  have hservice := h.1
  revert hservice
  refine ofTopic_cases (P := fun i => i.rpcType = .service → i.serviceType ≠ .none)
    topic.topicName (fun p h => by cases h) (fun p ty base hty _ => ?_) fun p base h => ?_
  · rw [RpcInfo.serviceType_ofService]
    exact hty
  · unfold RpcInfo.ofTopicSuffix at h
    split at h
    · cases h
    · split at h
      · cases h
      · cases h

end Topics

/-! ### What has been heard -/

namespace ServiceDiscovered

/-- The service has its request or its reply. -/
def Has (v : ServiceDiscovered) (ty : ServiceType) : Prop := (v.getTopic ty).isSome = true

variable {v : ServiceDiscovered} {name : Str} {topic : DdsTopic} {ty ty' : ServiceType}

lemma has_complete : v.complete.2.Has ty ↔ v.Has ty := by
  unfold complete
  split
  · split
    · rfl
    · rfl
  · rfl

lemma complete_iff : v.complete.1 = true ↔
    v.requestDiscovered = true ∧ v.replyDiscovered = true ∧ v.serviceName ≠ [] := by
  unfold complete
  split
  · next hboth =>
    split
    · next hname => simp_all
    · next hname => simp_all
  · next hnot => simp_all

lemma has_addTopic (hty : ty ≠ .none) (hty' : ty' ≠ .none) :
    (v.addTopic topic ty).2.Has ty' ↔ v.Has ty' ∨ ty = ty' := by
  cases ty with
  | none => exact absurd rfl hty
  | request =>
    rcases hrequest : v.requestDiscovered
    · simp only [addTopic, hrequest, Bool.false_eq_true, if_false, has_complete]
      cases ty' <;> simp_all [Has, getTopic]
    · cases ty' <;> simp_all [addTopic, Has, getTopic]
  | reply =>
    rcases hreply : v.replyDiscovered
    · simp only [addTopic, hreply, Bool.false_eq_true, if_false, has_complete]
      cases ty' <;> simp_all [Has, getTopic]
    · cases ty' <;> simp_all [addTopic, Has, getTopic]

lemma has_discover (hty : ty ≠ .none) (hty' : ty' ≠ .none) :
    (v.discover topic ty).Has ty' ↔ v.Has ty' ∨ ty = ty' := by
  unfold discover
  split
  · exact has_addTopic hty hty'
  · exact has_addTopic hty hty'

lemma addTopic_iff (hname : v.serviceName ≠ []) (hty : ty ≠ .none) :
    (v.addTopic topic ty).1 = true ↔
      ¬ v.Has ty ∧ (v.discover topic ty).Has .request ∧ (v.discover topic ty).Has .reply := by
  rw [has_discover hty (by simp), has_discover hty (by simp)]
  cases ty with
  | none => exact absurd rfl hty
  | request =>
    rcases hrequest : v.requestDiscovered
    · simp [addTopic, hrequest, complete_iff, Has, getTopic, hname]
    · simp [addTopic, hrequest, Has, getTopic]
  | reply =>
    rcases hreply : v.replyDiscovered
    · simp [addTopic, hreply, complete_iff, Has, getTopic, hname]
    · simp [addTopic, hreply, Has, getTopic]

/-- Only a service that has a name is completed. -/
lemma addTopic_named (h : (v.addTopic topic ty).1 = true) : v.serviceName ≠ [] := by
  unfold addTopic at h
  split at h
  · split at h
    · cases h
    · exact (complete_iff.mp h).2.2
  · split at h
    · cases h
    · exact (complete_iff.mp h).2.2

lemma Consistent.full_iff (h : v.Consistent name) (hname : name ≠ []) :
    v.fullyDiscovered = true ↔ v.Has .request ∧ v.Has .reply := by
  rw [h.complete]
  simp [Has, getTopic, hname]

end ServiceDiscovered

/-- The services of the action have the topics that have been heard. -/
structure HeardServices (actionName : Str) (ts : List DdsTopic) (p : Participant) : Prop where
  consistent : p.Consistent
  topics : ∀ t ty, isServicePart t → ty ≠ .none →
    ((∃ v, p.services.find (partName actionName t) = some v ∧ v.Has ty) ↔ HasPart ts (t, ty))

/-- The entry of the action has the topics that have been heard, and pointers to the services that
are complete. -/
structure Gathered (generation : Str → Nat) (actionName : Str) (ts : List DdsTopic)
    (a : ActionDiscovered) : Prop where
  name : a.actionName = actionName
  ref : ∀ t, isServicePart t → a.ref t =
    if HasService ts t then some ⟨partName actionName t, generation (partName actionName t)⟩
    else none
  feedback : a.feedbackDiscovered = true ↔ HasPart ts (.feedback, .none)
  status : a.statusDiscovered = true ↔ HasPart ts (.status, .none)

/-- What is known of the action is what has been heard. -/
structure Heard (generation : Str → Nat) (actionName : Str) (ts : List DdsTopic)
    (p : Participant) : Prop where
  services : HeardServices actionName ts p
  generations : p.services.generation = generation
  entry : ∀ protocol, Gathered generation actionName ts
    ((p.actions.lookup actionName).getD { actionName, protocol })

section Heard

variable {generation : Str → Nat} {actionName : Str} {ts : List DdsTopic} {topic : DdsTopic}
  {p : Participant} {a : ActionDiscovered} {t : ActionType} {ty : ServiceType} {info : RpcInfo}

lemma partName_ne_nil (ht : isServicePart t) : partName actionName t ≠ [] := by
  intro hnil
  have hpart := actionPart_append actionName ht
  rw [show actionName ++ partSuffix t = [] from hnil] at hpart
  cases hpart

lemma HeardServices.discover (h : HeardServices actionName ts p) (ht : isServicePart t)
    (hty : ty ≠ .none) (hpart : (RpcInfo.ofTopic topic.topicName).part = (t, ty))
    (hname : info.serviceName = partName actionName t) (hinfo : info.serviceType = ty) :
    HeardServices actionName (ts ++ [topic]) (p.serviceDiscovered info topic).2 ∧
      ((p.serviceDiscovered info topic).1 = true ↔
        ¬ HasPart ts (t, ty) ∧ HasService (ts ++ [topic]) t) := by
  set v := (p.services.find info.serviceName).getD
    { serviceName := info.serviceName, protocol := info.protocol } with hv
  have hhas : ∀ ty', ty' ≠ .none → (v.Has ty' ↔ HasPart ts (t, ty')) := by
    intro ty' hty'
    rw [← h.topics t ty' ht hty', hv, hname]
    rcases p.services.find (partName actionName t) with _ | w
    · cases ty' <;> simp [ServiceDiscovered.Has, ServiceDiscovered.getTopic]
    · simp
  have hsnoc : ∀ ty', ty' ≠ .none →
      ((v.discover topic ty).Has ty' ↔ HasPart (ts ++ [topic]) (t, ty')) := by
    intro ty' hty'
    rw [ServiceDiscovered.has_discover hty hty', hhas ty' hty', hasPart_snoc, hpart]
    simp
  have hentry : v.serviceName ≠ [] := by
    have hconsistent : v.serviceName = info.serviceName := by
      rw [hv]
      rcases hf : p.services.find info.serviceName with _ | w
      · rfl
      · exact (h.consistent _ w hf).name
    rw [hconsistent, hname]
    exact partName_ne_nil ht
  refine ⟨⟨h.consistent.serviceDiscovered info topic, fun t' ty' ht' hty' => ?_⟩, ?_⟩
  · rw [serviceDiscovered_services, ← hv, hinfo, hname]
    by_cases hsame : t' = t
    · subst hsame
      rw [← hsnoc ty' hty']
      simp
    · have hne := partName_ne (a := actionName) ht' ht hsame
      have hother : (RpcInfo.ofTopic topic.topicName).part ≠ (t', ty') := by
        rw [hpart]
        exact fun heq => hsame (congrArg Prod.fst heq).symm
      rw [hasPart_snoc, ← h.topics t' ty' ht' hty']
      simp [hne, hother]
  · have hfound : (p.serviceDiscovered info topic).1 = (v.addTopic topic ty).1 := by
      rw [← hinfo]
      rfl
    rw [hfound, ServiceDiscovered.addTopic_iff hentry hty, hhas ty hty, hsnoc .request (by simp),
      hsnoc .reply (by simp)]
    rfl

lemma HeardServices.full (h : HeardServices actionName ts p) (ht : isServicePart t)
    (hs : HasService ts t) : ∃ v, p.services.find (partName actionName t) = some v ∧
      v.fullyDiscovered = true := by
  obtain ⟨v, hv, hrequest⟩ := (h.topics t .request ht (by simp)).mpr hs.1
  obtain ⟨w, hw, hreply⟩ := (h.topics t .reply ht (by simp)).mpr hs.2
  rw [hv] at hw
  cases hw
  exact ⟨v, hv, ((h.consistent _ v hv).full_iff (partName_ne_nil ht)).mpr ⟨hrequest, hreply⟩⟩

lemma Gathered.check_iff (ha : Gathered generation actionName ts a)
    (hp : HeardServices actionName ts p) (hg : p.services.generation = generation) :
    (a.checkFullyDiscovered p.services).1 = true ↔ HasAll ts := by
  have hlock : ∀ t, isServicePart t → p.services.lock (a.ref t) =
      if HasService ts t then p.services.find (partName actionName t) else none := by
    intro t ht
    rw [ha.ref t ht]
    split
    · simp [ServiceMap.lock, hg]
    · rfl
  have hset : ∀ {t v}, isServicePart t → p.services.lock (a.ref t) = some v →
      HasService ts t := by
    intro t v ht hv
    rw [hlock t ht] at hv
    split at hv
    · assumption
    · cases hv
  rw [hasAll_iff]
  constructor
  · intro hfull
    obtain ⟨-, goal, result, cancel, hwhole⟩ := checkFullyDiscovered_whole hfull
    exact ⟨hset (t := .goal) rfl hwhole.hasGoal, hset (t := .result) rfl hwhole.hasResult,
      hset (t := .cancel) rfl hwhole.hasCancel, ha.feedback.mp hwhole.topics.1,
      ha.status.mp hwhole.topics.2⟩
  · rintro ⟨hgoal, hresult, hcancel, hfeedback, hstatus⟩
    obtain ⟨vg, hvg, hfg⟩ := hp.full (t := .goal) rfl hgoal
    obtain ⟨vr, hvr, hfr⟩ := hp.full (t := .result) rfl hresult
    obtain ⟨vc, hvc, hfc⟩ := hp.full (t := .cancel) rfl hcancel
    have hg : p.services.lock a.goal = some vg := by
      rw [← hvg]
      exact (hlock .goal rfl).trans (if_pos hgoal)
    have hr : p.services.lock a.result = some vr := by
      rw [← hvr]
      exact (hlock .result rfl).trans (if_pos hresult)
    have hc : p.services.lock a.cancel = some vc := by
      rw [← hvc]
      exact (hlock .cancel rfl).trans (if_pos hcancel)
    unfold ActionDiscovered.checkFullyDiscovered
    rw [hg, hr, hc]
    simp [hfg, hfr, hfc, ha.feedback.mpr hfeedback, ha.status.mpr hstatus]

lemma hasService_snoc_ne (h : (RpcInfo.ofTopic topic.topicName).part.1 ≠ t) :
    HasService (ts ++ [topic]) t ↔ HasService ts t := by
  have hne : ∀ ty, (RpcInfo.ofTopic topic.topicName).part ≠ (t, ty) :=
    fun ty heq => h (congrArg Prod.fst heq)
  simp [HasService, hasPart_snoc, hne]

lemma hasPart_snoc_ne {part : ActionType × ServiceType}
    (h : (RpcInfo.ofTopic topic.topicName).part ≠ part) :
    HasPart (ts ++ [topic]) part ↔ HasPart ts part := by
  rw [hasPart_snoc, or_iff_left h]

lemma hasService_snoc_again (hpart : (RpcInfo.ofTopic topic.topicName).part = (t, ty))
    (h : HasPart ts (t, ty)) : HasService (ts ++ [topic]) t ↔ HasService ts t := by
  have hboth : ∀ ty', HasPart (ts ++ [topic]) (t, ty') ↔ HasPart ts (t, ty') := by
    intro ty'
    rw [hasPart_snoc, hpart, or_iff_left_of_imp]
    rintro ⟨⟩
    exact h
  simp [HasService, hboth]

lemma hasPart_of_hasService (hty : ty ≠ .none) (h : HasService ts t) : HasPart ts (t, ty) := by
  cases ty with
  | none => exact absurd rfl hty
  | request => exact h.1
  | reply => exact h.2

lemma Gathered.of_service {a' : ActionDiscovered} (ha : Gathered generation actionName ts a)
    (hty : ty ≠ .none) (hpart : (RpcInfo.ofTopic topic.topicName).part = (t, ty))
    (hname : a'.actionName = a.actionName)
    (hfeedback : a'.feedbackDiscovered = a.feedbackDiscovered)
    (hstatus : a'.statusDiscovered = a.statusDiscovered)
    (href : ∀ t', isServicePart t' → a'.ref t' =
      if HasService (ts ++ [topic]) t' then
        some ⟨partName actionName t', generation (partName actionName t')⟩
      else none) :
    Gathered generation actionName (ts ++ [topic]) a' := by
  have hne : ∀ t', (RpcInfo.ofTopic topic.topicName).part ≠ (t', .none) := by
    intro t'
    rw [hpart]
    exact fun heq => hty (congrArg Prod.snd heq)
  refine ⟨hname.trans ha.name, href, ?_, ?_⟩
  · rw [hfeedback, hasPart_snoc_ne (hne .feedback), ha.feedback]
  · rw [hstatus, hasPart_snoc_ne (hne .status), ha.status]

lemma gathered_service (ha : Gathered generation actionName ts a) (ht : isServicePart t)
    (hty : ty ≠ .none) (hpart : (RpcInfo.ofTopic topic.topicName).part = (t, ty)) {b : Bool}
    (hb : b = true ↔ ¬ HasPart ts (t, ty) ∧ HasService (ts ++ [topic]) t) :
    Gathered generation actionName (ts ++ [topic])
      (if b then
        a.withPart (some ⟨partName actionName t, generation (partName actionName t)⟩) t
      else a) := by
  have hother : ∀ t', t' ≠ t → (HasService (ts ++ [topic]) t' ↔ HasService ts t') := by
    intro t' hne
    refine hasService_snoc_ne ?_
    rw [hpart]
    exact hne.symm
  cases hbool : b with
  | true =>
    obtain ⟨-, hcomplete⟩ := hb.mp hbool
    rw [if_pos rfl]
    refine ha.of_service hty hpart (by cases t <;> rfl) (by cases t <;> rfl) (by cases t <;> rfl)
      fun t' ht' => ?_
    rw [ref_withPart ht]
    by_cases heq : t' = t
    · subst heq
      rw [if_pos rfl, if_pos hcomplete]
    · rw [if_neg heq, ha.ref t' ht']
      simp only [hother t' heq]
  | false =>
    have hsame : HasService (ts ++ [topic]) t ↔ HasService ts t := by
      by_cases hhas : HasPart ts (t, ty)
      · exact hasService_snoc_again hpart hhas
      · refine iff_of_false (fun hs => ?_) fun hs => hhas (hasPart_of_hasService hty hs)
        rw [hb.mpr ⟨hhas, hs⟩] at hbool
        cases hbool
    rw [if_neg (by simp)]
    refine ha.of_service hty hpart rfl rfl rfl fun t' ht' => ?_
    rw [ha.ref t' ht']
    by_cases heq : t' = t
    · subst heq
      simp only [hsame]
    · simp only [hother t' heq]

lemma ref_addTopic {t' : ActionType} : (a.addTopic topic t).2.ref t' = a.ref t' := by
  cases t <;> cases t' <;> rfl

lemma gathered_topic (ha : Gathered generation actionName ts a)
    (hpart : (RpcInfo.ofTopic topic.topicName).part = (.feedback, .none) ∨
      (RpcInfo.ofTopic topic.topicName).part = (.status, .none)) :
    Gathered generation actionName (ts ++ [topic])
      (a.addTopic topic (RpcInfo.ofTopic topic.topicName).actionType).2 := by
  have hservice : ∀ t, isServicePart t →
      (HasService (ts ++ [topic]) t ↔ HasService ts t) := by
    intro t ht
    refine hasService_snoc_ne ?_
    rcases hpart with hpart | hpart <;> (rw [hpart]; rintro rfl; cases ht)
  have hne : ((.feedback, .none) : ActionType × ServiceType) ≠ (.status, .none) := by simp
  have hname : (a.addTopic topic (RpcInfo.ofTopic topic.topicName).actionType).2.actionName =
      actionName := by
    rw [← ha.name]
    cases (RpcInfo.ofTopic topic.topicName).actionType <;> rfl
  have href : ∀ t, isServicePart t →
      (a.addTopic topic (RpcInfo.ofTopic topic.topicName).actionType).2.ref t =
        if HasService (ts ++ [topic]) t then
          some ⟨partName actionName t, generation (partName actionName t)⟩
        else none := by
    intro t ht
    rw [ref_addTopic, ha.ref t ht]
    simp only [hservice t ht]
  rcases hpart with hpart | hpart
  · have htype : (RpcInfo.ofTopic topic.topicName).actionType = .feedback := congrArg Prod.fst hpart
    rw [htype] at hname href ⊢
    refine ⟨hname, href, ?_, ?_⟩
    · rw [hasPart_snoc]
      exact iff_of_true rfl (.inr hpart)
    · rw [hasPart_snoc_ne (by rw [hpart]; exact hne), ← ha.status]
      rfl
  · have htype : (RpcInfo.ofTopic topic.topicName).actionType = .status := congrArg Prod.fst hpart
    rw [htype] at hname href ⊢
    refine ⟨hname, href, ?_, ?_⟩
    · rw [hasPart_snoc_ne (by rw [hpart]; exact hne.symm), ← ha.feedback]
      rfl
    · rw [hasPart_snoc]
      exact iff_of_true rfl (.inr hpart)

lemma enterTopic_heard (hp : HeardServices actionName ts p)
    (hg : p.services.generation = generation) (ha : Gathered generation actionName ts a)
    (htopic : topic.OfAction actionName) :
    HeardServices actionName (ts ++ [topic])
        (p.enterTopic (.ofTopic topic.topicName) topic a).1 ∧
      (p.enterTopic (.ofTopic topic.topicName) topic a).1.services.generation = generation ∧
      Gathered generation actionName (ts ++ [topic])
        (p.enterTopic (.ofTopic topic.topicName) topic a).2 := by
  unfold Participant.enterTopic
  rcases htopic.cases with ⟨t, ty, ht, hty, hpart, hname⟩ | hpart
  · have htype : (RpcInfo.ofTopic topic.topicName).serviceType = ty := congrArg Prod.snd hpart
    have haction : (RpcInfo.ofTopic topic.topicName).actionType = t := congrArg Prod.fst hpart
    obtain ⟨hservices, hfound⟩ := hp.discover ht hty hpart hname htype
    have hgeneration :
        (p.serviceDiscovered (.ofTopic topic.topicName) topic).2.services.generation =
          generation := hg
    have hgathered := gathered_service ha ht hty hpart hfound
    rw [if_pos (by rw [htype]; exact hty)]
    generalize p.serviceDiscovered (.ofTopic topic.topicName) topic = found at *
    obtain ⟨discovered, q⟩ := found
    have hweak : q.services.weak (partName actionName t) =
        ⟨partName actionName t, generation (partName actionName t)⟩ := by
      rw [ServiceMap.weak, show q.services.generation = generation from hgeneration]
    rcases discovered
    · exact ⟨hservices, hgeneration, hgathered⟩
    · refine ⟨hservices, hgeneration, ?_⟩
      simp only [if_true] at hgathered ⊢
      rw [hname, haction, hweak, ActionDiscovered.addService_eq ht]
      exact hgathered
  · have htype : (RpcInfo.ofTopic topic.topicName).serviceType = .none := by
      rcases hpart with hpart | hpart
      · exact congrArg Prod.snd hpart
      · exact congrArg Prod.snd hpart
    have hother : ∀ t ty, isServicePart t → (RpcInfo.ofTopic topic.topicName).part ≠ (t, ty) := by
      intro t ty ht heq
      rcases hpart with hpart | hpart <;> (rw [hpart] at heq; cases heq; cases ht)
    rw [if_neg (by simp [htype])]
    refine ⟨⟨hp.consistent, fun t ty ht hty => ?_⟩, hg, gathered_topic ha hpart⟩
    rw [hasPart_snoc_ne (hother t ty ht)]
    exact hp.topics t ty ht hty

lemma getAction_name {services : ServiceMap} {action : RpcAction}
    (h : a.getAction services = .ok action) : action.actionName = a.actionName := by
  unfold ActionDiscovered.getAction at h
  split at h
  · split at h
    · cases h
      rfl
    · cases h
  · cases h

lemma Gathered.same {a' : ActionDiscovered} (h : Gathered generation actionName ts a)
    (hname : a'.actionName = a.actionName) (href : ∀ t, a'.ref t = a.ref t)
    (hfeedback : a'.feedbackDiscovered = a.feedbackDiscovered)
    (hstatus : a'.statusDiscovered = a.statusDiscovered) :
    Gathered generation actionName ts a' :=
  ⟨hname.trans h.name, fun t ht => (href t).trans (h.ref t ht), by rw [hfeedback, h.feedback],
    by rw [hstatus, h.status]⟩

lemma Gathered.checked (h : Gathered generation actionName ts a) (services : ServiceMap) :
    Gathered generation actionName ts (a.checkFullyDiscovered services).2 := by
  have hsame := sameAction_check (a := a) services
  refine h.same hsame.name hsame.ref ?_ ?_
  · unfold ActionDiscovered.checkFullyDiscovered
    repeat' split
    all_goals rfl
  · unfold ActionDiscovered.checkFullyDiscovered
    repeat' split
    all_goals rfl

lemma Heard.discover (h : Heard generation actionName ts p) (htopic : topic.OfAction actionName) :
    Heard generation actionName (ts ++ [topic])
        (p.actionDiscovered (.ofTopic topic.topicName) topic).2 ∧
      ((p.actionDiscovered (.ofTopic topic.topicName) topic).1 = true ↔ HasAll (ts ++ [topic])) ∧
      ∀ action, (p.actionDiscovered (.ofTopic topic.topicName) topic).2.getAction actionName =
        .ok action → action.actionName = actionName := by
  have hname := htopic.2
  obtain ⟨hservices, hgeneration, hgathered⟩ := enterTopic_heard h.services h.generations
    (h.entry (RpcInfo.ofTopic topic.topicName).protocol) htopic
  have hcheck := hgathered.check_iff hservices hgeneration
  unfold Participant.actionDiscovered
  rw [hname]
  dsimp only
  generalize p.enterTopic (.ofTopic topic.topicName) topic _ = entered at *
  obtain ⟨q, a⟩ := entered
  dsimp only at *
  have hchecked := hgathered.checked q.services
  generalize a.checkFullyDiscovered q.services = checked at *
  obtain ⟨discovered, a'⟩ := checked
  have hlast : Gathered generation actionName (ts ++ [topic])
      (if discovered then { a' with externalServer := true } else a') := by
    rcases discovered
    · exact hchecked
    · exact hchecked.same rfl (fun t => by cases t <;> rfl) rfl rfl
  have hlookup : (q.actions.insert actionName
      (if discovered then { a' with externalServer := true } else a')).lookup actionName = _ :=
    (lookup_insert _ _ _ _).trans (if_pos rfl)
  refine ⟨⟨⟨hservices.consistent, hservices.topics⟩, hgeneration, fun protocol => ?_⟩, hcheck,
    fun action haction => ?_⟩
  · rw [hlookup]
    exact hlast
  · rw [Participant.getAction, hlookup] at haction
    exact (getAction_name haction).trans hlast.name

end Heard

/-! ### Runs -/

lemma Participant.Undiscovered.find {p : Participant} (h : p.Undiscovered) (name : Str) :
    p.services.find name = none := by
  rw [ServiceMap.find, h.services, AList.lookup_empty]

lemma Participant.Undiscovered.consistent {p : Participant} (h : p.Undiscovered) :
    p.Consistent := by
  intro name v hv
  rw [h.find] at hv
  cases hv

/-- The topics that are no topics of type objects. -/
def Env.heard (env : Env) (ts : List DdsTopic) : List DdsTopic :=
  ts.filter fun topic => !env.isTypeObjectTopic topic

section Runs

variable {env : Env} {generation : Str → Nat} {actionName : Str} {ts : List DdsTopic}
  {topic : DdsTopic} {s : State}

lemma createReader_notified {q : Participant} {es : List Event} (hforeign : env.Foreign topic)
    (hrun : (notifyDiscovery env (.ofTopic topic.topicName) topic).run s =
      .ok true ({ s with participant := q }.log es)) :
    (createReader env topic).run s =
      .ok (some (makeReader env (.ofTopic topic.topicName) topic)) ({ s with
        participant := q.setReader topic (makeReader env (.ofTopic topic.topicName) topic) }.log
          es) := by
  unfold createReader
  rw [hforeign.typed, if_neg (by simp), if_pos hforeign.discoverer, run_bind_ok hrun]
  rfl

lemma length_noticesOf_append (w : Whole) (es es' : List Event) :
    (noticesOf w (es ++ es')).length = (noticesOf w es).length + (noticesOf w es').length := by
  rw [noticesOf, List.filter_append, List.length_append]
  rfl

lemma heard_createReader (h : Heard generation actionName ts s.participant)
    (htopic : topic.OfAction actionName) (hforeign : env.Foreign topic) :
    Heard generation actionName (ts ++ [topic]) (after (createReader env topic) s).participant ∧
      ∃ es, (after (createReader env topic) s).trace = s.trace ++ es ∧
        (noticesOf (.action actionName) es).length =
          if HasAll (ts ++ [topic]) ∧ env.callbacks.actionNotification = true then 1 else 0 := by
  obtain ⟨hheard, hfound, hnamed⟩ := h.discover htopic
  have hget : (s.participant.actionDiscovered (.ofTopic topic.topicName) topic).1 = true → _ :=
    retrieves_action h.services.consistent
  set q := (s.participant.actionDiscovered (.ofTopic topic.topicName) topic).2 with hq
  obtain ⟨es, hrun, hes⟩ : ∃ es, (notifyDiscovery env (.ofTopic topic.topicName) topic).run s =
      .ok true ({ s with participant := q }.log es) ∧ (noticesOf (.action actionName) es).length =
        if HasAll (ts ++ [topic]) ∧ env.callbacks.actionNotification = true then 1 else 0 := by
    unfold notifyDiscovery
    simp only [htopic.1]
    rw [run_bind_ok (onParticipant_run s _), ← hq]
    rcases hdiscovered : (s.participant.actionDiscovered (.ofTopic topic.topicName) topic).1
    · have hnot : ¬ HasAll (ts ++ [topic]) := by
        rw [← hfound, hdiscovered]
        simp
      exact ⟨[], by rw [log_nil]; rfl, by simp [noticesOf, hnot]⟩
    · obtain ⟨action, haction⟩ := hget hdiscovered
      have hall : HasAll (ts ++ [topic]) := hfound.mp hdiscovered
      rw [if_pos rfl, run_bind_ok (readParticipant_run _ _)]
      dsimp only
      rw [haction]
      have htold : (addAction env action).run { s with participant := q } = _ :=
        notify_run _ _ _
      refine ⟨_, run_bind_ok htold, ?_⟩
      rw [htopic.2] at haction
      rw [hnamed action haction]
      rcases env.callbacks.actionNotification
      · simp [noticesOf]
      · simp [noticesOf, Event.isNoticeOf, hall]
  rw [after_ok (createReader_notified hforeign hrun)]
  exact ⟨⟨⟨hheard.services.consistent, hheard.services.topics⟩, hheard.generations, hheard.entry⟩,
    es, rfl, hes⟩

/-- The action is notified by every topic that is heard once all of its topics have been. -/
lemma heard_discover (h : Heard generation actionName [] s.participant)
    (hts : ∀ topic ∈ ts, topic.OfAction actionName ∧ topic.discoverer ≠ env.id) :
    Heard generation actionName (env.heard ts) (discover env s ts).participant ∧
      ∃ es, (discover env s ts).trace = s.trace ++ es ∧
        ((noticesOf (.action actionName) es).length = 0 ↔
          env.callbacks.actionNotification = false ∨ ¬ HasAll (env.heard ts)) ∧
        ((noticesOf (.action actionName) es).length ≤ 1 ↔
          env.callbacks.actionNotification = false ∨ ¬ HasAll (env.heard ts).dropLast) := by
  have hempty : ¬ HasAll [] := by decide
  induction ts using List.reverseRecOn with
  | nil => exact ⟨h, [], by simp [discover], by simp [noticesOf, Env.heard, hempty]⟩
  | append_singleton ts topic ih =>
    obtain ⟨hheard, es, htrace, hnone, hone⟩ := ih fun t ht => hts t (List.mem_append_left _ ht)
    obtain ⟨htopic, hdiscoverer⟩ := hts topic (by simp)
    rw [discover_snoc]
    rcases htype : env.isTypeObjectTopic topic
    · have hlast : env.heard (ts ++ [topic]) = env.heard ts ++ [topic] := by
        simp [Env.heard, htype]
      obtain ⟨hstep, es', htrace', hes'⟩ := heard_createReader hheard htopic ⟨htype, hdiscoverer⟩
      have hmore : HasAll (env.heard ts) → HasAll (env.heard ts ++ [topic]) :=
        fun hall => hasAll_append hall [topic]
      -- all parts heard before this topic: it was noticed then, and is noticed once more now
      rw [hlast]
      refine ⟨hstep, es ++ es', by rw [htrace', htrace, List.append_assoc], ?_, ?_⟩
      · rw [length_noticesOf_append, hes']
        split
        · next hall => simp [hall.1, hall.2]
        · next hnot =>
          rw [Nat.add_zero, hnone, ← Bool.not_eq_true]
          grind
      · rw [List.dropLast_concat, length_noticesOf_append, hes', ← hnone]
        split
        · omega
        · next hnot =>
          have hzero : (noticesOf (.action actionName) es).length = 0 := by
            rw [hnone, ← Bool.not_eq_true]
            grind
          omega
    · have hsame : env.heard (ts ++ [topic]) = env.heard ts := by simp [Env.heard, htype]
      have hpassed : after (createReader env topic) (discover env s ts) = discover env s ts := by
        unfold createReader
        rw [if_pos htype]
        rfl
      rw [hsame, hpassed]
      exact ⟨hheard, es, htrace, hnone, hone⟩

lemma heard_start (h : s.participant.Undiscovered) (actionName : Str) :
    Heard s.participant.services.generation actionName [] s.participant := by
  have hactions : s.participant.actions.lookup actionName = none := by
    rw [h.actions, AList.lookup_empty]
  refine ⟨⟨h.consistent, fun t ty _ _ => ?_⟩, rfl, fun protocol => ?_⟩
  · simp [h.find, HasPart]
  · rw [hactions]
    refine ⟨rfl, fun t ht => ?_, ?_, ?_⟩
    · have hnone : ¬ HasService [] t := fun hs => by simp [HasService, HasPart] at hs
      rw [if_neg hnone]
      cases t <;> rfl
    · simp [HasPart]
    · simp [HasPart]

end Runs

/-! ### A service -/

/-- A service that has been notified has both of its topics, and it has been once. -/
structure NotifiedWhole (serviceName : Str) (n : Nat) (p : Participant) : Prop where
  consistent : p.Consistent
  once : n ≤ 1
  whole : n = 1 → ∃ v, p.services.find serviceName = some v ∧ v.Has .request ∧ v.Has .reply

section Services

variable {env : Env} {serviceName : Str} {ts : List DdsTopic} {topic : DdsTopic} {s : State}
  {n : Nat}

lemma NotifiedWhole.discover {p : Participant} (h : NotifiedWhole serviceName n p)
    (htopic : topic.OfService serviceName) {k : Nat} (hk : k ≤ 1)
    (hfound : 0 < k → (p.serviceDiscovered (.ofTopic topic.topicName) topic).1 = true) :
    NotifiedWhole serviceName (n + k)
      (p.serviceDiscovered (.ofTopic topic.topicName) topic).2 := by
  have hty := htopic.typed
  have hname := htopic.2
  have hconsistent := h.consistent.serviceDiscovered (.ofTopic topic.topicName) topic
  set ty := (RpcInfo.ofTopic topic.topicName).serviceType with htype
  set v := (p.services.find (RpcInfo.ofTopic topic.topicName).serviceName).getD
    { serviceName := (RpcInfo.ofTopic topic.topicName).serviceName,
      protocol := (RpcInfo.ofTopic topic.topicName).protocol } with hv
  have hfind : (p.serviceDiscovered (.ofTopic topic.topicName) topic).2.services.find serviceName =
      some (v.discover topic ty) := by
    rw [serviceDiscovered_services, ServiceMap.find_set, if_pos hname.symm]
  have hnew : 0 < k → ¬ v.Has ty ∧ (v.discover topic ty).Has .request ∧
      (v.discover topic ty).Has .reply := by
    intro hpos
    have hadded : (v.addTopic topic ty).1 = true := hfound hpos
    exact (ServiceDiscovered.addTopic_iff (ServiceDiscovered.addTopic_named hadded) hty).mp hadded
  have hold : n = 1 → v.Has .request ∧ v.Has .reply := by
    intro hn
    obtain ⟨w, hw, hboth⟩ := h.whole hn
    rw [hv, hname, hw]
    exact hboth
  refine ⟨hconsistent, ?_, fun hn => ⟨_, hfind, ?_⟩⟩
  · by_contra hmore
    have hone := h.once
    obtain ⟨hrequest, hreply⟩ := hold (by omega)
    refine (hnew (by omega)).1 ?_
    rcases hcase : ty
    · exact absurd hcase hty
    · exact hrequest
    · exact hreply
  · by_cases hpos : 0 < k
    · exact (hnew hpos).2
    · obtain ⟨hrequest, hreply⟩ := hold (by omega)
      exact ⟨(ServiceDiscovered.has_discover hty (by simp)).mpr (.inl hrequest),
        (ServiceDiscovered.has_discover hty (by simp)).mpr (.inl hreply)⟩

lemma notified_notifyDiscovery (h : NotifiedWhole serviceName n s.participant)
    (htopic : topic.OfService serviceName) :
    ∃ es, (after (notifyDiscovery env (.ofTopic topic.topicName) topic) s).trace = s.trace ++ es ∧
      NotifiedWhole serviceName (n + (noticesOf (.service serviceName) es).length)
        (after (notifyDiscovery env (.ofTopic topic.topicName) topic) s).participant := by
  have hget : (s.participant.serviceDiscovered (.ofTopic topic.topicName) topic).1 = true → _ :=
    retrieves_service h.consistent
  have hstep := fun k => h.discover htopic (k := k)
  set q := (s.participant.serviceDiscovered (.ofTopic topic.topicName) topic).2 with hq
  rcases hfound : (s.participant.serviceDiscovered (.ofTopic topic.topicName) topic).1
  · have hrun : (notifyDiscovery env (.ofTopic topic.topicName) topic).run s =
        .ok true ({ s with participant := q }) := by
      unfold notifyDiscovery
      simp only [htopic.1]
      rw [run_bind_ok (onParticipant_run s _), hfound]
      rfl
    rw [after_ok hrun]
    exact ⟨[], by simp, hstep 0 (by simp) (by simp)⟩
  · obtain ⟨service, hservice⟩ := hget hfound
    have hrun : (notifyDiscovery env (.ofTopic topic.topicName) topic).run s =
        .ok true ({ s with participant := q }.log (if env.callbacks.serviceNotification then
          [.serviceNotification service.serviceName service.info] else [])) := by
      unfold notifyDiscovery
      simp only [htopic.1]
      rw [run_bind_ok (onParticipant_run s _), hfound, if_pos rfl,
        run_bind_ok (readParticipant_run _ _)]
      dsimp only
      rw [← hq, hservice]
      have htold : (addService env service).run { s with participant := q } = _ :=
        notify_run _ _ _
      exact run_bind_ok htold
    rw [after_ok hrun]
    refine ⟨_, rfl, hstep _ ?_ fun _ => hfound⟩
    split
    · exact List.length_filter_le _ _
    · simp [noticesOf]

/-- A service is notified at most once, however often its topics are discovered. -/
theorem service_notified_once (h : s.participant.Undiscovered)
    (hts : ∀ topic ∈ ts, topic.OfService serviceName) :
    (noticesOf (.service serviceName) (newEvents s (discover env s ts))).length ≤ 1 := by
  have hstart : NotifiedWhole serviceName 0 s.participant := ⟨h.consistent, by simp, by simp⟩
  obtain ⟨es, htrace, hafter⟩ : ∃ es, (discover env s ts).trace = s.trace ++ es ∧
      NotifiedWhole serviceName (noticesOf (.service serviceName) es).length
        (discover env s ts).participant := by
    induction ts using List.reverseRecOn with
    | nil => exact ⟨[], by simp [discover], hstart⟩
    | append_singleton ts topic ih =>
      obtain ⟨es, htrace, hprev⟩ := ih fun t ht => hts t (List.mem_append_left _ ht)
      rw [discover_snoc]
      refine after_createReader topic (P := fun t => ∃ es, t.trace = s.trace ++ es ∧
        NotifiedWhole serviceName (noticesOf (.service serviceName) es).length t.participant) env
        (discover env s ts) (fun _ => ⟨es, htrace, hprev⟩) (fun _ => ?_) ?_
      · obtain ⟨es', htrace', hlast⟩ := notified_notifyDiscovery hprev (hts topic (by simp))
        refine ⟨es ++ es', by rw [htrace', htrace, List.append_assoc], ?_⟩
        rw [length_noticesOf_append]
        exact hlast
      · rintro t readers ⟨es, htrace, hlast⟩
        exact ⟨es, htrace, hlast.consistent, hlast.once, hlast.whole⟩
  rw [newEvents_eq htrace]
  exact hafter.once

end Services

/-! ### An action -/

/-- The notices of the action that the topics bring about. -/
def actionNotices (env : Env) (s : State) (actionName : Str) (ts : List DdsTopic) : List Event :=
  noticesOf (.action actionName) (newEvents s (discover env s ts))

/-- An action is notified at most once exactly where nobody is told or no topic of it comes after
the one that completes it. -/
theorem action_notified_once_iff (env : Env) (s : State) (h : s.participant.Undiscovered)
    (actionName : Str) (ts : List DdsTopic)
    (hts : ∀ topic ∈ ts, topic.OfAction actionName ∧ topic.discoverer ≠ env.id) :
    (actionNotices env s actionName ts).length ≤ 1 ↔
      env.callbacks.actionNotification = false ∨ ¬ HasAll (env.heard ts).dropLast := by
  obtain ⟨-, es, htrace, -, hone⟩ := heard_discover (heard_start h actionName) hts
  rw [actionNotices, newEvents_eq htrace]
  exact hone

/-- An environment where actions are notified. -/
def notifiedEnv : Env :=
  { Env.silent with callbacks := { Callbacks.unset with actionNotification := true } }

/-- The topics of an action, each of them once. -/
def actionTopics : List DdsTopic :=
  (Whole.action fibonacciAction).roles.map fun r : Role => { topicName := r.topicName }

theorem action_notified_once_whole :
    (∀ topic ∈ actionTopics, topic.OfAction fibonacciAction ∧ topic.discoverer ≠ notifiedEnv.id) ∧
      (actionNotices notifiedEnv {} fibonacciAction actionTopics).length ≤ 1 :=
  have hts : ∀ topic ∈ actionTopics,
      topic.OfAction fibonacciAction ∧ topic.discoverer ≠ notifiedEnv.id := by decide +kernel
  ⟨hts, (action_notified_once_iff notifiedEnv {} ⟨rfl, rfl⟩ fibonacciAction actionTopics hts).mpr
    (.inr (by decide +kernel))⟩

/-- The topics of an action, and then its status again. -/
def repeatedStatus : List DdsTopic :=
  actionTopics ++ [{ topicName := (Role.status fibonacciAction).topicName }]

/-- A topic that is discovered again has the action notified again. -/
theorem repeated_status_notified_twice :
    (∀ topic ∈ repeatedStatus,
      topic.OfAction fibonacciAction ∧ topic.discoverer ≠ notifiedEnv.id) ∧
      (actionNotices notifiedEnv {} fibonacciAction repeatedStatus).length = 2 := by
  decide +kernel

end DdsEnabler
