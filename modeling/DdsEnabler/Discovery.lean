import DdsEnabler.ActionServer
import DdsEnabler.Lib.Assembly

/-!
Discovery: services of two topics and actions of eight, whose readers are created in any order.

Every map of the participant is a function of the topics that have been seen so far. A service
or an action is notified by the reader that completes it, so once, and the maps that are left
do not depend on the order in which the readers were created.
-/

namespace DdsEnabler

open Exec Runs Tables Assembly RpcInfo

/-! ### Names -/

/-- What a topic of the enabler's scheme is to services and actions. -/
inductive Role
  | request (serviceName : Str)
  | reply (serviceName : Str)
  | feedback (actionName : Str)
  | status (actionName : Str)
  deriving DecidableEq

/-- A service that is not one of an action's, or an action. -/
inductive Whole
  | service (serviceName : Str)
  | action (actionName : Str)
  deriving DecidableEq

namespace Role

def topicName : Role → Str
  | request s => rosRequestPrefix ++ s ++ rosRequestSuffix
  | reply s => rosReplyPrefix ++ s ++ rosReplySuffix
  | feedback a => rosTopicPrefix ++ a ++ actionFeedbackSuffix
  | status a => rosTopicPrefix ++ a ++ actionStatusSuffix

/-- Services have a name, and the names of actions end with a slash. -/
def Valid : Role → Prop
  | request s | reply s => s ≠ []
  | feedback a | status a => ['/'] <:+ a

/-- The whole that a service is a part of. -/
def ofService (s : Str) : Whole :=
  match actionPart s with
  | none => .service s
  | some (a, _) => .action a

/-- What the topic is a part of. -/
def whole : Role → Whole
  | request s | reply s => ofService s
  | feedback a | status a => .action a

lemma topicName_inj {r r' : Role} : r.topicName = r'.topicName ↔ r = r' := by
  have hne : ∀ a a', (feedback a).topicName ≠ (status a').topicName := by
    intro a a' h
    have hbase : a ++ partSuffix .feedback = a' ++ partSuffix .status := by
      simpa [topicName, partSuffix] using h
    cases (append_suffix_inj (.inl rfl) (.inr rfl) hbase).2
  refine ⟨fun h => ?_, congrArg _⟩
  cases r <;> cases r'
  case feedback.status => exact absurd h (hne _ _)
  case status.feedback => exact absurd h.symm (hne _ _)
  all_goals simp_all [topicName, rosRequestPrefix, rosReplyPrefix, rosTopicPrefix]

end Role

/-- The two topics of a service. -/
def serviceRoles (s : Str) : List Role := [.request s, .reply s]

namespace Whole

def Plain : Whole → Prop
  | service s => actionPart s = none
  | action _ => True

def roles : Whole → List Role
  | service s => serviceRoles s
  | action a => serviceRoles (partName a .goal) ++ serviceRoles (partName a .result) ++
      serviceRoles (partName a .cancel) ++ [.feedback a, .status a]

end Whole

lemma actionPart_eq_some {s a : Str} {t : ActionType} (h : actionPart s = some (a, t)) :
    s = partName a t ∧ isServicePart t := by
  have hsplit : ∀ {suffix : Str}, suffix.isSuffixOf s → s = dropEnd s suffix.length ++ suffix := by
    intro suffix hsuf
    obtain ⟨b, rfl⟩ := List.isSuffixOf_iff_suffix.mp hsuf
    rw [dropEnd_append]
  unfold actionPart at h
  split at h
  · cases h
    exact ⟨hsplit ‹_›, rfl⟩
  · split at h
    · cases h
      exact ⟨hsplit ‹_›, rfl⟩
    · split at h
      · cases h
        exact ⟨hsplit ‹_›, rfl⟩
      · cases h

lemma ofService_eq_service {s s' : Str} :
    Role.ofService s = .service s' ↔ s = s' ∧ actionPart s' = none := by
  unfold Role.ofService
  rcases h : actionPart s with _ | ⟨a, t⟩
  · have : s = s' → actionPart s' = none := fun hs => hs ▸ h
    simpa using this
  · have : s = s' → actionPart s' ≠ none := fun hs => by simp [← hs, h]
    simpa using this

lemma ofService_eq_action {s a : Str} : Role.ofService s = .action a ↔
    s = partName a .goal ∨ s = partName a .result ∨ s = partName a .cancel := by
  have hpart : ∀ t, isServicePart t → Role.ofService (partName a t) = .action a := by
    intro t ht
    unfold Role.ofService partName
    rw [actionPart_append a ht]
  constructor
  · intro h
    unfold Role.ofService at h
    split at h
    · cases h
    · next a' t hs =>
      cases h
      obtain ⟨hname, ht⟩ := actionPart_eq_some hs
      cases t <;> simp_all [isServicePart]
  · rintro (rfl | rfl | rfl)
    · exact hpart .goal rfl
    · exact hpart .result rfl
    · exact hpart .cancel rfl

lemma mem_roles_iff {w : Whole} (hw : w.Plain) {r : Role} : r ∈ w.roles ↔ r.whole = w := by
  cases w with
  | service s =>
    have hs : actionPart s = none := hw
    cases r <;> simp [Whole.roles, serviceRoles, Role.whole, ofService_eq_service, hs]
  | action a =>
    cases r <;> simp [Whole.roles, serviceRoles, Role.whole, ofService_eq_action, eq_comm]

/-! ### The maps, as functions of the topics seen -/

/-- The topics that have been seen. -/
abbrev Seen := Role → Option DdsTopic

namespace Seen

variable (m : Seen)

/-- Another topic is seen. -/
def add (r : Role) (topic : DdsTopic) : Seen := Function.update m r (some topic)

lemma add_apply (r r' : Role) (topic : DdsTopic) :
    m.add r topic r' = if r' = r then some topic else m r' := by
  simp [add, Function.update_apply]

@[simp] lemma add_self (r : Role) (topic : DdsTopic) : m.add r topic r = some topic := by
  simp [add]

lemma add_of_ne {r r' : Role} (h : r' ≠ r) (topic : DdsTopic) : m.add r topic r' = m r' := by
  rw [add_apply, if_neg h]

@[simp] lemma add_request_reply (s s' : Str) (topic : DdsTopic) :
    m.add (.request s) topic (.reply s') = m (.reply s') := m.add_of_ne (by simp) topic

@[simp] lemma add_reply_request (s s' : Str) (topic : DdsTopic) :
    m.add (.reply s) topic (.request s') = m (.request s') := m.add_of_ne (by simp) topic

/-- The topics of a service, as they are notified. -/
def rpcTopic (s : Str) : RpcTopic := ⟨s, (m (.request s)).getD {}, (m (.reply s)).getD {}⟩

/-- The topics of an action, as they are notified. -/
def rpcAction (a : Str) : RpcAction :=
  ⟨a, m.rpcTopic (partName a .goal), m.rpcTopic (partName a .result),
    m.rpcTopic (partName a .cancel), (m (.feedback a)).getD {}, (m (.status a)).getD {}⟩

def service (s : Str) : Option ServiceDiscovered :=
  match m (.request s), m (.reply s) with
  | none, none => none
  | some q, none =>
    some { serviceName := s, protocol := .ros2, topicRequest := q, requestDiscovered := true }
  | none, some r =>
    some { serviceName := s, protocol := .ros2, topicReply := r, replyDiscovered := true }
  | some q, some r =>
    some { serviceName := s, protocol := .ros2, topicRequest := q, requestDiscovered := true
           topicReply := r, replyDiscovered := true, rpcTopic := some (m.rpcTopic s)
           fullyDiscovered := true, externalServer := true }

/-- The pointer to a service of an action; no service object has ever been replaced. -/
def part (generation : Str → Nat) (s : Str) : Option WeakRef :=
  if Complete m (serviceRoles s) then some ⟨s, generation s⟩ else none

/-- An action with its parts, before it is checked. -/
def parts (generation : Str → Nat) (a : Str) : ActionDiscovered where
  actionName := a
  protocol := .ros2
  goal := m.part generation (partName a .goal)
  result := m.part generation (partName a .result)
  cancel := m.part generation (partName a .cancel)
  feedback := (m (.feedback a)).getD {}
  feedbackDiscovered := (m (.feedback a)).isSome
  status := (m (.status a)).getD {}
  statusDiscovered := (m (.status a)).isSome

def checked (generation : Str → Nat) (a : Str) : ActionDiscovered :=
  { m.parts generation a with
    fullyDiscovered := decide (Complete m (Whole.action a).roles)
    externalServer := decide (Complete m (Whole.action a).roles) }

def action (generation : Str → Nat) (a : Str) : Option ActionDiscovered :=
  if ∃ r ∈ (Whole.action a).roles, (m r).isSome then some (m.checked generation a) else none

/-- What is notified of a complete whole. -/
def notices (env : Env) : Whole → List Event
  | .service s =>
    if env.callbacks.serviceNotification then [.serviceNotification s (m.rpcTopic s).info] else []
  | .action a =>
    if env.callbacks.actionNotification then [.actionNotification a (m.rpcAction a).info] else []

end Seen

/-! ### The services -/

namespace Role

def serviceType : Role → ServiceType
  | request _ => .request
  | reply _ => .reply
  | _ => .none

end Role

/-- The services are those of the topics seen, and none has been replaced since `generation`. -/
structure ServicesSeen (m : ServiceMap) (seen : Seen) (generation : Str → Nat) : Prop where
  find : ∀ n, m.find n = seen.service n
  generation : m.generation = generation

section Services

variable {p : Participant} {seen : Seen} {generation : Str → Nat} {r : Role} {s : Str}
  {info : RpcInfo} {topic : DdsTopic}

lemma service_congr {seen' : Seen} {n : Str} (h : ∀ r ∈ serviceRoles n, seen r = seen' r) :
    seen.service n = seen'.service n := by
  have hrequest := h (.request n) (by simp [serviceRoles])
  have hreply := h (.reply n) (by simp [serviceRoles])
  unfold Seen.service Seen.rpcTopic
  rw [hrequest, hreply]

lemma part_congr {seen' : Seen} {n : Str} (h : ∀ r ∈ serviceRoles n, seen r = seen' r) :
    seen.part generation n = seen'.part generation n := by
  unfold Seen.part
  simp only [complete_congr h]

lemma add_other (hr : r ∈ serviceRoles s) {n : Str} (hn : n ≠ s) :
    ∀ r' ∈ serviceRoles n, seen.add r topic r' = seen r' := by
  intro r' hr'
  refine seen.add_of_ne ?_ topic
  rintro rfl
  simp only [serviceRoles, List.mem_cons, List.not_mem_nil, or_false] at hr hr'
  rcases hr with rfl | rfl <;> simp_all

lemma ServicesSeen.set {m : ServiceMap} (h : ServicesSeen m seen generation)
    (hr : r ∈ serviceRoles s) {v : ServiceDiscovered}
    (hv : (seen.add r topic).service s = some v) :
    ServicesSeen (m.set s v) (seen.add r topic) generation where
  find n := by
    rw [ServiceMap.find_set]
    split
    · next hn => rw [hn, hv]
    · next hn => rw [h.find, service_congr (add_other hr hn)]
  generation := h.generation

variable (topic) in
lemma serviceDiscovered_seen (h : ServicesSeen p.services seen generation) (hs : s ≠ [])
    (hr : r ∈ serviceRoles s) (hnew : seen r = none) (hname : info.serviceName = s)
    (hprotocol : info.protocol = .ros2) (hty : info.serviceType = r.serviceType) :
    ∃ services, p.serviceDiscovered info topic =
        (decide (Complete (seen.add r topic) (serviceRoles s)),
          { p with services }) ∧
      ServicesSeen services (seen.add r topic) generation := by
  have hfind := h.find s
  obtain ⟨v, hv⟩ : ∃ v, (seen.add r topic).service s = some v := by
    simp only [serviceRoles, List.mem_cons, List.not_mem_nil, or_false] at hr
    rcases hr with rfl | rfl
    · rcases hother : seen (.reply s) with _ | q <;> simp [Seen.service, hother]
    · rcases hother : seen (.request s) with _ | q <;> simp [Seen.service, hother]
  refine ⟨p.services.set s v, ?_, h.set hr hv⟩
  simp only [serviceRoles, List.mem_cons, List.not_mem_nil, or_false] at hr
  rcases hr with rfl | rfl
  · rcases hother : seen (.reply s) with _ | q <;>
      simp [Seen.service, hother] at hv <;> subst hv <;>
      simp [Participant.serviceDiscovered, hname, hprotocol, hty, hfind, Seen.service,
        Seen.rpcTopic, hnew, hother, Role.serviceType, ServiceDiscovered.addTopic,
        ServiceDiscovered.complete, Complete, serviceRoles, hs]
  · rcases hother : seen (.request s) with _ | q <;>
      simp [Seen.service, hother] at hv <;> subst hv <;>
      simp [Participant.serviceDiscovered, hname, hprotocol, hty, hfind, Seen.service,
        Seen.rpcTopic, hnew, hother, Role.serviceType, ServiceDiscovered.addTopic,
        ServiceDiscovered.complete, Complete, serviceRoles, hs]

end Services

/-! ### The actions -/

namespace ActionDiscovered

/-- The action with another pointer to one of its services. -/
def withPart (x : ActionDiscovered) (w : Option WeakRef) : ActionType → ActionDiscovered
  | .goal => { x with goal := w }
  | .result => { x with result := w }
  | .cancel => { x with cancel := w }
  | _ => x

lemma addService_eq {t : ActionType} (ht : isServicePart t) (x : ActionDiscovered) (w : WeakRef) :
    x.addService w t = (true, x.withPart (some w) t) := by
  cases t <;> first | rfl | cases ht

end ActionDiscovered

section Actions

variable {p : Participant} {seen : Seen} {generation : Str → Nat} {r : Role} {a : Str}
  {t : ActionType} {info : RpcInfo} {topic : DdsTopic}

lemma parts_update_service (ht : isServicePart t) (hr : r ∈ serviceRoles (partName a t)) :
    (seen.add r topic).parts generation a =
      (seen.parts generation a).withPart
        ((seen.add r topic).part generation (partName a t)) t := by
  have hne : ∀ t', isServicePart t' → t' ≠ t →
      (seen.add r topic).part generation (partName a t') =
        seen.part generation (partName a t') :=
    fun t' ht' htt => part_congr (add_other hr (partName_ne ht' ht htt))
  have hfeedback : r ≠ .feedback a := by
    rintro rfl
    simp [serviceRoles] at hr
  have hstatus : r ≠ .status a := by
    rintro rfl
    simp [serviceRoles] at hr
  have hf := seen.add_of_ne hfeedback.symm topic
  have hs := seen.add_of_ne hstatus.symm topic
  cases t with
  | goal => simp [Seen.parts, ActionDiscovered.withPart, hf, hs, hne .result rfl, hne .cancel rfl]
  | result => simp [Seen.parts, ActionDiscovered.withPart, hf, hs, hne .goal rfl, hne .cancel rfl]
  | cancel => simp [Seen.parts, ActionDiscovered.withPart, hf, hs, hne .goal rfl, hne .result rfl]
  | _ => cases ht

variable (topic) in
lemma enterTopic_service (h : ServicesSeen p.services seen generation) (ht : isServicePart t)
    (hr : r ∈ serviceRoles (partName a t)) (hnew : seen r = none)
    (hname : info.serviceName = partName a t) (hprotocol : info.protocol = .ros2)
    (hservice : info.serviceType = r.serviceType) (haction : info.actionType = t) :
    ∃ services, p.enterTopic info topic (seen.parts generation a) =
        ({ p with services }, (seen.add r topic).parts generation a) ∧
      ServicesSeen services (seen.add r topic) generation := by
  have hs : partName a t ≠ [] := by
    intro hnil
    have hpart := actionPart_append a ht
    rw [show a ++ partSuffix t = [] from hnil] at hpart
    cases hpart
  have hty : info.serviceType ≠ .none := by
    rw [hservice]
    simp only [serviceRoles, List.mem_cons, List.not_mem_nil, or_false] at hr
    rcases hr with rfl | rfl <;> simp [Role.serviceType]
  obtain ⟨services, hrun, hseen⟩ :=
    serviceDiscovered_seen topic h hs hr hnew hname hprotocol hservice
  refine ⟨services, ?_, hseen⟩
  have hweak : services.weak (partName a t) = ⟨partName a t, generation (partName a t)⟩ := by
    rw [ServiceMap.weak, hseen.generation]
  unfold Participant.enterTopic
  rw [if_pos hty, hrun, parts_update_service ht hr]
  by_cases hc : Complete (seen.add r topic) (serviceRoles (partName a t))
  · have hpart : (seen.add r topic).part generation (partName a t) =
        some ⟨partName a t, generation (partName a t)⟩ := if_pos hc
    simp [hc, hname, hweak, haction, hpart, ActionDiscovered.addService_eq ht]
  · have hpart : (seen.add r topic).part generation (partName a t) =
        seen.part generation (partName a t) := by
      rw [Seen.part, Seen.part, if_neg hc, if_neg fun hc => by simpa [hnew] using hc r hr]
    have hsame : (seen.parts generation a).withPart (seen.part generation (partName a t)) t =
        seen.parts generation a := by
      cases t <;> rfl
    simp [hc, hpart, hsame]

variable (topic) in
lemma enterTopic_topic (h : ServicesSeen p.services seen generation)
    (hr : r = .feedback a ∧ t = .feedback ∨ r = .status a ∧ t = .status)
    (hservice : info.serviceType = .none) (haction : info.actionType = t) :
    p.enterTopic info topic (seen.parts generation a) =
        (p, (seen.add r topic).parts generation a) ∧
      ServicesSeen p.services (seen.add r topic) generation := by
  have hservices : ∀ n, r ∉ serviceRoles n := by
    rcases hr with ⟨rfl, -⟩ | ⟨rfl, -⟩ <;> simp [serviceRoles]
  have hpart : ∀ n, (seen.add r topic).part generation n =
      seen.part generation n := by
    intro n
    have hcomplete : Complete (seen.add r topic) (serviceRoles n) ↔
        Complete seen (serviceRoles n) :=
      complete_congr fun r' hr' =>
        seen.add_of_ne (fun heq : r' = r => hservices n (heq ▸ hr')) _
    unfold Seen.part
    simp only [hcomplete]
  constructor
  · unfold Participant.enterTopic Seen.parts
    simp only [hpart, hservice, haction]
    rcases hr with ⟨rfl, rfl⟩ | ⟨rfl, rfl⟩ <;>
      simp [ActionDiscovered.addTopic, Seen.add_apply]
  · refine ⟨fun n => ?_, h.generation⟩
    rw [h.find]
    unfold Seen.service Seen.rpcTopic
    have hreq : Role.request n ≠ r := fun heq => hservices n (heq ▸ by simp [serviceRoles])
    have hrep : Role.reply n ≠ r := fun heq => hservices n (heq ▸ by simp [serviceRoles])
    rw [seen.add_of_ne hreq, seen.add_of_ne hrep]

lemma service_complete {n : Str} (h : Complete seen (serviceRoles n)) :
    ∃ v, seen.service n = some v ∧ v.fullyDiscovered = true ∧
      v.getService = .ok (seen.rpcTopic n) := by
  obtain ⟨q, hq⟩ := Option.isSome_iff_exists.mp (h (.request n) (by simp [serviceRoles]))
  obtain ⟨r, hr⟩ := Option.isSome_iff_exists.mp (h (.reply n) (by simp [serviceRoles]))
  have hv : seen.service n = some
      { serviceName := n, protocol := .ros2, topicRequest := q, requestDiscovered := true
        topicReply := r, replyDiscovered := true, rpcTopic := some (seen.rpcTopic n)
        fullyDiscovered := true, externalServer := true } := by
    simp only [Seen.service, hq, hr]
  exact ⟨_, hv, rfl, rfl⟩

lemma lock_part {m : ServiceMap} (h : ServicesSeen m seen generation) (n : Str) :
    m.lock (seen.part generation n) =
      if Complete seen (serviceRoles n) then seen.service n else none := by
  unfold Seen.part
  split
  · simp [ServiceMap.lock, h.generation, h.find]
  · rfl

lemma complete_action_iff : Complete seen (Whole.action a).roles ↔
    Complete seen (serviceRoles (partName a .goal)) ∧
      Complete seen (serviceRoles (partName a .result)) ∧
        Complete seen (serviceRoles (partName a .cancel)) ∧ (seen (.feedback a)).isSome ∧
          (seen (.status a)).isSome := by
  simp [Complete, Whole.roles, or_imp, forall_and]

lemma checkFullyDiscovered_parts {m : ServiceMap} (h : ServicesSeen m seen generation) :
    (seen.parts generation a).checkFullyDiscovered m =
      (decide (Complete seen (Whole.action a).roles),
        { seen.parts generation a with
          fullyDiscovered := decide (Complete seen (Whole.action a).roles) }) := by
  have hlock := lock_part h
  unfold ActionDiscovered.checkFullyDiscovered
  by_cases hparts : Complete seen (serviceRoles (partName a .goal)) ∧
      Complete seen (serviceRoles (partName a .result)) ∧
        Complete seen (serviceRoles (partName a .cancel))
  · obtain ⟨hg, hr, hc⟩ := hparts
    obtain ⟨vg, hvg, hfg, -⟩ := service_complete hg
    obtain ⟨vr, hvr, hfr, -⟩ := service_complete hr
    obtain ⟨vc, hvc, hfc, -⟩ := service_complete hc
    simp only [Seen.parts, hlock, hg, hr, hc, hvg, hvr, hvc, hfg, hfr, hfc, complete_action_iff,
      if_true, true_and, Bool.and_self, Bool.true_and]
    rcases (seen (.feedback a)).isSome <;> rcases (seen (.status a)).isSome <;> simp
  · have hall : ¬ Complete seen (Whole.action a).roles := fun h => by
      obtain ⟨hg, hr, hc, -⟩ := complete_action_iff.mp h
      exact hparts ⟨hg, hr, hc⟩
    split
    · next hg hr hc =>
      simp only [Seen.parts, hlock] at hg hr hc
      split at hg <;> split at hr <;> split at hc <;> simp_all
    · simp [hall]

lemma getAction_checked {p : Participant} (h : ServicesSeen p.services seen generation)
    (hc : Complete seen (Whole.action a).roles) :
    (seen.checked generation a).getAction p.services = .ok (seen.rpcAction a) := by
  have hlock := lock_part h
  obtain ⟨hg, hr, hcc, hf, hs⟩ := complete_action_iff.mp hc
  obtain ⟨vg, hvg, -, hgetg⟩ := service_complete hg
  obtain ⟨vr, hvr, -, hgetr⟩ := service_complete hr
  obtain ⟨vc, hvc, -, hgetc⟩ := service_complete hcc
  unfold ActionDiscovered.getAction
  simp only [Seen.checked, Seen.parts, hc, decide_true, hlock, hg, hr, hcc, hvg, hvr, hvc,
    if_true, hgetg, hgetr, hgetc]
  rfl

lemma action_congr {seen' : Seen} (h : ∀ r ∈ (Whole.action a).roles, seen r = seen' r) :
    seen.action generation a = seen'.action generation a := by
  have hsome : (∃ r ∈ (Whole.action a).roles, (seen r).isSome) ↔
      ∃ r ∈ (Whole.action a).roles, (seen' r).isSome :=
    exists_congr fun r => and_congr_right fun hr => by rw [h r hr]
  have hpart : ∀ t, isServicePart t →
      seen.part generation (partName a t) = seen'.part generation (partName a t) := by
    intro t ht
    refine part_congr fun r hr => h r ?_
    cases t <;> simp_all [isServicePart, Whole.roles]
  have hf := h (.feedback a) (by simp [Whole.roles])
  have hs := h (.status a) (by simp [Whole.roles])
  unfold Seen.action Seen.checked Seen.parts
  simp only [hsome, hpart .goal rfl, hpart .result rfl, hpart .cancel rfl, hf, hs,
    complete_congr h]

lemma getD_action (a : Str) (hnot : ¬ Complete seen (Whole.action a).roles) :
    (seen.action generation a).getD { actionName := a, protocol := .ros2 } =
      seen.parts generation a := by
  unfold Seen.action
  split
  · simp only [Option.getD_some, Seen.checked, hnot, decide_false]
    rfl
  · next hnone =>
    have hseen : ∀ r ∈ (Whole.action a).roles, seen r = none := by
      intro r hr
      rw [← Option.not_isSome_iff_eq_none]
      exact fun h => hnone ⟨r, hr, h⟩
    have hpart : ∀ t, isServicePart t → seen.part generation (partName a t) = none := by
      intro t ht
      refine if_neg fun hc => ?_
      have hreq : seen (.request (partName a t)) = none := by
        refine hseen _ ?_
        cases t <;> simp_all [isServicePart, Whole.roles, serviceRoles]
      simpa [hreq] using hc (.request (partName a t)) (by simp [serviceRoles])
    have hf := hseen (.feedback a) (by simp [Whole.roles])
    have hs := hseen (.status a) (by simp [Whole.roles])
    simp [Seen.parts, hpart .goal rfl, hpart .result rfl, hpart .cancel rfl, hf, hs]

lemma actionDiscovered_seen {services : ServiceMap}
    (hactions : p.actions.lookup a = seen.action generation a)
    (henter : p.enterTopic info topic (seen.parts generation a) =
      ({ p with services }, (seen.add r topic).parts generation a))
    (hseen : ServicesSeen services (seen.add r topic) generation)
    (hr : r ∈ (Whole.action a).roles) (hnew : seen r = none)
    (hname : info.actionName = a) (hprotocol : info.protocol = .ros2) :
    p.actionDiscovered info topic =
      (decide (Complete (seen.add r topic) (Whole.action a).roles),
        { p with
          services
          actions := p.actions.insert a
            ((seen.add r topic).checked generation a) }) := by
  have hnot : ¬ Complete seen (Whole.action a).roles := fun hc => by simpa [hnew] using hc r hr
  have hentry : (seen.action generation a).getD { actionName := a, protocol := .ros2 } =
      seen.parts generation a := getD_action a hnot
  subst hname
  unfold Participant.actionDiscovered
  simp only [hprotocol, hactions, hentry, henter, checkFullyDiscovered_parts hseen]
  by_cases hc : Complete (seen.add r topic)
    (Whole.action info.actionName).roles
  · simp only [hc, Seen.checked, decide_true, if_true]
  · simp only [hc, Seen.checked, decide_false, Bool.false_eq_true, if_false]
    rfl

end Actions

/-! ### A reader is created -/

/-- A topic that another participant has discovered. -/
structure Env.Foreign (env : Env) (topic : DdsTopic) : Prop where
  typed : env.isTypeObjectTopic topic = false
  discoverer : topic.discoverer ≠ env.id

/-- The maps are those of the topics seen. -/
structure Knows (generation : Str → Nat) (p : Participant) (seen : Seen) : Prop where
  services : ServicesSeen p.services seen generation
  actions : ∀ a, p.actions.lookup a = seen.action generation a

section Creation

variable {env : Env} {generation : Str → Nat} {s : State} {seen : Seen} {r : Role}
  {topic : DdsTopic}

/-- What is notified when the topic of the role comes in. -/
def Seen.completed (seen : Seen) (env : Env) (r : Role) : List Event :=
  if Complete seen r.whole.roles then seen.notices env r.whole else []

/-- The discovery of a new topic: the maps follow, and what it completes is notified. -/
def Notifies (env : Env) (generation : Str → Nat) (s : State) (seen : Seen) (r : Role)
    (topic : DdsTopic) : Prop :=
  ∃ p, (notifyDiscovery env (.ofTopic topic.topicName) topic).run s =
      .ok true { s with
        participant := p
        trace := s.trace ++ (seen.add r topic).completed env r } ∧
    Knows generation p (seen.add r topic) ∧
      p.readers = s.participant.readers

lemma notify_run (b : Bool) (e : Event) (s : State) :
    (notify b e).run s = .ok () (s.log (if b then [e] else [])) := by
  cases b <;> simp

lemma action_add_other {b : Str} (h : r.whole ≠ .action b) :
    (seen.add r topic).action generation b = seen.action generation b := by
  refine action_congr fun r' hr' => seen.add_of_ne ?_ topic
  rintro rfl
  exact h ((mem_roles_iff (w := .action _) trivial).mp hr')

lemma notifies_action {a : Str} {services : ServiceMap} (h : Knows generation s.participant seen)
    (hrpc : (RpcInfo.ofTopic topic.topicName).rpcType = .action)
    (hname : (RpcInfo.ofTopic topic.topicName).actionName = a)
    (hprotocol : (RpcInfo.ofTopic topic.topicName).protocol = .ros2)
    (henter : s.participant.enterTopic (.ofTopic topic.topicName) topic
      (seen.parts generation a) = ({ s.participant with services },
        (seen.add r topic).parts generation a))
    (hseen : ServicesSeen services (seen.add r topic) generation)
    (hr : r.whole = .action a) (hnew : seen r = none) :
    Notifies env generation s seen r topic := by
  have hmem : r ∈ (Whole.action a).roles := (mem_roles_iff (w := .action _) trivial).mpr hr
  have hdisc := actionDiscovered_seen (h.actions a) henter hseen hmem hnew hname hprotocol
  set seen' := seen.add r topic with hseen'
  set p : Participant :=
    { s.participant with
      services, actions := s.participant.actions.insert a (seen'.checked generation a) } with hp
  have hlookup : p.actions.lookup a = some (seen'.checked generation a) := by
    rw [hp, lookup_insert, if_pos rfl]
  have hknows : Knows generation p seen' := by
    refine ⟨hseen, fun b => ?_⟩
    by_cases hb : b = a
    · have hsome : ∃ r' ∈ (Whole.action a).roles, (seen' r').isSome :=
        ⟨r, hmem, by simp [hseen']⟩
      rw [hb, hlookup, Seen.action, if_pos hsome]
    · have hother : r.whole ≠ .action b := by
        rw [hr]
        simpa using Ne.symm hb
      rw [hp, lookup_insert, if_neg hb, h.actions, hseen', action_add_other hother]
  have hfound : (onParticipant (·.actionDiscovered (.ofTopic topic.topicName) topic)).run s =
      .ok (decide (Complete seen' (Whole.action a).roles)) { s with participant := p } := by
    rw [onParticipant_run, hdisc]
  refine ⟨p, ?_, hknows, rfl⟩
  unfold notifyDiscovery Seen.completed
  simp only [hrpc]
  rw [run_bind_ok hfound, hr]
  by_cases hc : Complete seen' (Whole.action a).roles
  · have hget : p.getAction (RpcInfo.ofTopic topic.topicName).actionName =
        .ok (seen'.rpcAction a) := by
      rw [hname, Participant.getAction, hlookup]
      exact getAction_checked hseen hc
    rw [if_pos hc, if_pos (decide_eq_true hc), run_bind_ok (readParticipant_run _ _), hget]
    have htold : (addAction env (seen'.rpcAction a)).run { s with participant := p } =
        .ok () (State.log { s with participant := p } (seen'.notices env (.action a))) :=
      notify_run _ _ _
    exact run_bind_ok htold
  · rw [if_neg hc, if_neg (by simpa using hc)]
    simp

lemma ofTopic_service {n : Str} (hr : r ∈ serviceRoles n) :
    RpcInfo.ofTopic r.topicName = (blank r.topicName .ros2).ofService r.serviceType n := by
  simp only [serviceRoles, List.mem_cons, List.not_mem_nil, or_false] at hr
  rcases hr with rfl | rfl
  · exact ofTopic_rosRequest n
  · exact ofTopic_rosReply n

lemma notifies_plain {n : Str} (h : Knows generation s.participant seen)
    (hr : r ∈ serviceRoles n) (hn : n ≠ []) (hnew : seen r = none)
    (hname : (RpcInfo.ofTopic topic.topicName).serviceName = n)
    (hprotocol : (RpcInfo.ofTopic topic.topicName).protocol = .ros2)
    (hservice : (RpcInfo.ofTopic topic.topicName).serviceType = r.serviceType)
    (hrpc : (RpcInfo.ofTopic topic.topicName).rpcType = .service)
    (hwhole : r.whole = .service n) : Notifies env generation s seen r topic := by
  obtain ⟨services, hdisc, hseen⟩ :=
    serviceDiscovered_seen topic h.services hn hr hnew hname hprotocol hservice
  have hknows : Knows generation { s.participant with services } (seen.add r topic) := by
    refine ⟨hseen, fun b => (h.actions b).trans (action_add_other ?_).symm⟩
    rw [hwhole]
    simp
  have hfound : (onParticipant (·.serviceDiscovered (.ofTopic topic.topicName) topic)).run s =
      .ok (decide (Complete (seen.add r topic) (serviceRoles n)))
        { s with participant := { s.participant with services } } := by
    rw [onParticipant_run, hdisc]
  refine ⟨_, ?_, hknows, rfl⟩
  unfold notifyDiscovery Seen.completed
  simp only [hrpc]
  rw [run_bind_ok hfound, hwhole]
  by_cases hc : Complete (seen.add r topic) (serviceRoles n)
  · obtain ⟨v, hv, -, hget⟩ := service_complete hc
    have hgot : Participant.getService { s.participant with services }
        (RpcInfo.ofTopic topic.topicName).serviceName = .ok ((seen.add r topic).rpcTopic n) := by
      rw [hname, Participant.getService, hseen.find, hv]
      exact hget
    have hall : Complete (seen.add r topic) (Whole.service n).roles := hc
    rw [if_pos hall, if_pos (decide_eq_true hc), run_bind_ok (readParticipant_run _ _), hgot]
    have htold : (addService env ((seen.add r topic).rpcTopic n)).run
        { s with participant := { s.participant with services } } =
        .ok () (State.log { s with participant := { s.participant with services } }
          ((seen.add r topic).notices env (.service n))) :=
      notify_run _ _ _
    exact run_bind_ok htold
  · have hall : ¬ Complete (seen.add r topic) (Whole.service n).roles := hc
    rw [if_neg hall, if_neg (by simpa using hc)]
    simp

lemma notifies_service {n : Str} (h : Knows generation s.participant seen)
    (hr : r ∈ serviceRoles n) (hn : n ≠ []) (hnew : seen r = none)
    (htopic : topic.topicName = r.topicName) : Notifies env generation s seen r topic := by
  have hinfo := ofTopic_service hr
  rw [← htopic] at hinfo
  have hwhole : r.whole = Role.ofService n := by
    simp only [serviceRoles, List.mem_cons, List.not_mem_nil, or_false] at hr
    rcases hr with rfl | rfl <;> rfl
  have hname : (RpcInfo.ofTopic topic.topicName).serviceName = n := by simp [hinfo]
  have hservice : (RpcInfo.ofTopic topic.topicName).serviceType = r.serviceType := by simp [hinfo]
  rcases hpart : actionPart n with _ | ⟨a, t⟩
  · simp only [RpcInfo.ofService, hpart, blank] at hinfo
    have hplain : r.whole = .service n := by rw [hwhole, Role.ofService, hpart]
    exact notifies_plain h hr hn hnew hname (by rw [hinfo]) hservice (by rw [hinfo]) hplain
  · simp only [RpcInfo.ofService, hpart, blank] at hinfo
    obtain ⟨rfl, ht⟩ := actionPart_eq_some hpart
    have hprotocol : (RpcInfo.ofTopic topic.topicName).protocol = .ros2 := by rw [hinfo]
    obtain ⟨services, henter, hseen⟩ :=
      enterTopic_service topic h.services ht hr hnew hname hprotocol hservice
        (by rw [hinfo])
    have haction : r.whole = .action a := by rw [hwhole, Role.ofService, hpart]
    exact notifies_action h (by rw [hinfo]) (by rw [hinfo]) hprotocol henter hseen haction hnew

lemma ofTopic_topic {a : Str} (hr : r = .feedback a ∨ r = .status a) (ha : ['/'] <:+ a) :
    (RpcInfo.ofTopic r.topicName).rpcType = .action ∧
      (RpcInfo.ofTopic r.topicName).actionName = a ∧
        (RpcInfo.ofTopic r.topicName).protocol = .ros2 ∧
          (RpcInfo.ofTopic r.topicName).serviceType = .none ∧
            (r = .feedback a ∧ (RpcInfo.ofTopic r.topicName).actionType = .feedback ∨
              r = .status a ∧ (RpcInfo.ofTopic r.topicName).actionType = .status) := by
  have hslash : ∀ suffix : Str, ('/' :: suffix).isSuffixOf (a ++ suffix) = true := by
    intro suffix
    obtain ⟨b, rfl⟩ := ha
    rw [List.isSuffixOf_iff_suffix]
    exact ⟨b, by simp⟩
  rcases hr with rfl | rfl
  · have hname : (Role.feedback a).topicName = rosTopicPrefix ++ (a ++ actionFeedbackSuffix) :=
      List.append_assoc _ _ _
    rw [hname, ofTopic_rosTopic, ofTopicSuffix, if_pos (hslash _), dropEnd_append]
    simp [blank]
  · have hname : (Role.status a).topicName = rosTopicPrefix ++ (a ++ actionStatusSuffix) :=
      List.append_assoc _ _ _
    have hnot : ('/' :: actionFeedbackSuffix).isSuffixOf (a ++ actionStatusSuffix) = false :=
      isSuffixOf_append_of_not (by decide) (by decide)
    rw [hname, ofTopic_rosTopic, ofTopicSuffix, hnot, if_neg (by simp), if_pos (hslash _),
      dropEnd_append]
    simp [blank]

lemma notifies_topic {a : Str} (h : Knows generation s.participant seen)
    (hr : r = .feedback a ∨ r = .status a) (ha : ['/'] <:+ a) (hnew : seen r = none)
    (htopic : topic.topicName = r.topicName) : Notifies env generation s seen r topic := by
  have hwhole : r.whole = .action a := by rcases hr with rfl | rfl <;> rfl
  have hinfo := ofTopic_topic hr ha
  rw [← htopic] at hinfo
  obtain ⟨hrpc, hname, hprotocol, hservice, haction⟩ := hinfo
  obtain ⟨henter, hseen⟩ := enterTopic_topic (a := a) topic h.services
    (haction.imp (fun h => ⟨h.1, h.2⟩) fun h => ⟨h.1, h.2⟩) hservice rfl
  exact notifies_action h hrpc hname hprotocol henter hseen hwhole hnew

variable (env) in
lemma notifies (h : Knows generation s.participant seen) (hr : r.Valid) (hnew : seen r = none)
    (htopic : topic.topicName = r.topicName) : Notifies env generation s seen r topic := by
  cases r with
  | request n => exact notifies_service h (by simp [serviceRoles]) hr hnew htopic
  | reply n => exact notifies_service h (by simp [serviceRoles]) hr hnew htopic
  | feedback a => exact notifies_topic h (.inl rfl) hr hnew htopic
  | status a => exact notifies_topic h (.inr rfl) hr hnew htopic

lemma createReader_seen (h : Knows generation s.participant seen) (hforeign : env.Foreign topic)
    (hr : r.Valid) (hnew : seen r = none) (htopic : topic.topicName = r.topicName) :
    ∃ p, after (createReader env topic) s =
        { s with participant := p, trace := s.trace ++ (seen.add r topic).completed env r } ∧
      Knows generation p (seen.add r topic) ∧
        p.readers = s.participant.readers.insert topic.key
          (makeReader env (.ofTopic topic.topicName) topic) := by
  obtain ⟨p, hrun, hknows, hreaders⟩ := notifies env h hr hnew htopic
  set reader := makeReader env (.ofTopic topic.topicName) topic with hreader
  have hcreate : (createReader env topic).run s = .ok (some reader)
      { s with
        participant := p.setReader topic reader
        trace := s.trace ++ (seen.add r topic).completed env r } := by
    unfold createReader
    rw [hforeign.typed, if_neg (by simp), if_pos hforeign.discoverer, run_bind_ok hrun]
    rfl
  refine ⟨p.setReader topic reader, after_ok hcreate, ⟨hknows.services, hknows.actions⟩, ?_⟩
  rw [Participant.setReader, hreaders]

end Creation

/-! ### Runs -/

/-- Readers are created for the topics, one after the other. -/
def discover (env : Env) (s : State) (ts : List DdsTopic) : State :=
  run (fun s topic => after (createReader env topic) s) s ts

/-- The topics seen in a sequence. -/
def seenOf (ts : List DdsTopic) : Seen := fun r => seen DdsTopic.topicName ts r.topicName

/-- A topic of the enabler's scheme that another participant has discovered. -/
def Env.InScheme (env : Env) (topic : DdsTopic) : Prop :=
  env.Foreign topic ∧ ∃ r : Role, r.Valid ∧ topic.topicName = r.topicName

/-- No service and no action is known. -/
structure Participant.Undiscovered (p : Participant) : Prop where
  services : p.services.services = ∅
  actions : p.actions = ∅

section Runs

variable {env : Env} {s : State} {ts : List DdsTopic} {t : DdsTopic} {r : Role}

lemma seenOf_snoc (hnew : t.topicName ∉ ts.map DdsTopic.topicName)
    (ht : t.topicName = r.topicName) : seenOf (ts ++ [t]) = (seenOf ts).add r t := by
  ext1 r'
  unfold seenOf
  rw [seen_snoc hnew, Seen.add_apply]
  by_cases hr : r' = r
  · rw [if_pos hr, hr, ← ht, Function.update_self]
  · have hname : r'.topicName ≠ t.topicName := by
      rw [ht]
      exact fun h => hr (Role.topicName_inj.mp h)
    rw [if_neg hr, Function.update_of_ne hname]

lemma knows_start (h : s.participant.Undiscovered) :
    Knows s.participant.services.generation s.participant (seenOf []) where
  services := by
    refine ⟨fun n => ?_, rfl⟩
    rw [ServiceMap.find, h.services]
    rfl
  actions a := by
    rw [h.actions]
    simp [Seen.action, seenOf]

lemma discover_snoc (env : Env) (s : State) (ts : List DdsTopic) (t : DdsTopic) :
    discover env s (ts ++ [t]) = after (createReader env t) (discover env s ts) :=
  run_append s ts [t]

/-- The reader of each topic, over those there were. -/
def readerOf (env : Env) (s : State) (ts : List DdsTopic) (k : TopicKey) : Option Reader :=
  match seen DdsTopic.key ts k with
  | some t => some (makeReader env (.ofTopic t.topicName) t)
  | none => s.participant.readers.lookup k

lemma nodup_key (h : (ts.map DdsTopic.topicName).Nodup) : (ts.map DdsTopic.key).Nodup := by
  have hmap : ts.map DdsTopic.topicName = (ts.map DdsTopic.key).map Prod.fst := by
    rw [List.map_map]
    rfl
  rw [hmap] at h
  exact h.of_map _

lemma snoc_new (h : ((ts ++ [t]).map DdsTopic.topicName).Nodup) :
    (ts.map DdsTopic.topicName).Nodup ∧ t.topicName ∉ ts.map DdsTopic.topicName := by
  rw [List.map_append, List.nodup_append] at h
  exact ⟨h.1, fun hmem => h.2.2 _ hmem _ (by simp) rfl⟩

lemma discover_step {generation : Str → Nat} (hts : ∀ t' ∈ ts ++ [t], env.InScheme t')
    (hnd : ((ts ++ [t]).map DdsTopic.topicName).Nodup)
    (h : Knows generation (discover env s ts).participant (seenOf ts)) :
    ∃ r : Role, t.topicName = r.topicName ∧
      (discover env s (ts ++ [t])).trace =
        (discover env s ts).trace ++ (seenOf (ts ++ [t])).completed env r ∧
      Knows generation (discover env s (ts ++ [t])).participant (seenOf (ts ++ [t])) ∧
      (discover env s (ts ++ [t])).participant.readers =
        (discover env s ts).participant.readers.insert t.key
          (makeReader env (.ofTopic t.topicName) t) := by
  obtain ⟨hforeign, r, hr, htopic⟩ := hts t (by simp)
  have hnew := (snoc_new hnd).2
  have hnone : seenOf ts r = none := by
    rw [seenOf, ← htopic, seen_eq_none]
    exact hnew
  obtain ⟨p, hafter, hknows, hreaders⟩ := createReader_seen h hforeign hr hnone htopic
  rw [discover_snoc, hafter, seenOf_snoc hnew htopic]
  exact ⟨r, htopic, rfl, hknows, hreaders⟩

lemma discover_knows (h : s.participant.Undiscovered) (hts : ∀ t ∈ ts, env.InScheme t)
    (hnd : (ts.map DdsTopic.topicName).Nodup) :
    Knows s.participant.services.generation (discover env s ts).participant (seenOf ts) ∧
      ∀ k, (discover env s ts).participant.readers.lookup k = readerOf env s ts k := by
  induction ts using List.reverseRecOn with
  | nil => exact ⟨knows_start h, fun k => rfl⟩
  | append_singleton ts t ih =>
    have hih := ih (fun t' ht' => hts t' (List.mem_append_left _ ht')) (snoc_new hnd).1
    obtain ⟨r, -, -, hknows, hreaders⟩ := discover_step hts hnd hih.1
    refine ⟨hknows, fun k => ?_⟩
    have hkey : t.key ∉ ts.map DdsTopic.key := by
      have hkeys := nodup_key hnd
      rw [List.map_append, List.nodup_append] at hkeys
      exact fun hmem => hkeys.2.2 _ hmem _ (by simp) rfl
    rw [hreaders, lookup_insert, hih.2, readerOf, readerOf, seen_snoc hkey]
    by_cases hk : k = t.key
    · rw [if_pos hk, hk, Function.update_self]
    · rw [if_neg hk, Function.update_of_ne hk]

/-! ### Completeness and order -/

/-- The event notifies the whole. -/
def Event.isNoticeOf (w : Whole) : Event → Bool
  | .serviceNotification s _ => w = .service s
  | .actionNotification a _ => w = .action a
  | _ => false

/-- The notices of a whole among the events. -/
def noticesOf (w : Whole) (es : List Event) : List Event := es.filter (·.isNoticeOf w)

/-- A whole is notified once, with the topics discovered, if all of its topics occur, and not at
all otherwise; it is the last of them that has it notified. -/
structure NotifiedOnce (env : Env) (s : State) (ts : List DdsTopic) (w : Whole) : Prop where
  total : noticesOf w (newEvents s (discover env s ts)) =
    if Complete (seenOf ts) w.roles then (seenOf ts).notices env w else []
  last : ∀ pre t post, ts = pre ++ t :: post →
    noticesOf w (newEvents (discover env s pre) (discover env s (pre ++ [t]))) =
      if Completes DdsTopic.topicName (w.roles.map Role.topicName) pre t then
        (seenOf ts).notices env w
      else []

/-- The same services, actions and readers, and pointers to services that are as valid. -/
structure SameMaps (p p' : Participant) : Prop where
  services : ∀ n, p.services.find n = p'.services.find n
  generation : p.services.generation = p'.services.generation
  actions : ∀ a, p.actions.lookup a = p'.actions.lookup a
  readers : ∀ k, p.readers.lookup k = p'.readers.lookup k

lemma complete_names {m : Str → Option DdsTopic} {w : Whole} :
    Complete m (w.roles.map Role.topicName) ↔
      Complete (fun r : Role => m r.topicName) w.roles := by
  simp [Complete]

lemma notices_congr {seen seen' : Seen} {w : Whole} (h : ∀ r ∈ w.roles, seen r = seen' r) :
    seen.notices env w = seen'.notices env w := by
  have hrpc : ∀ n, (∀ r ∈ serviceRoles n, r ∈ w.roles) → seen.rpcTopic n = seen'.rpcTopic n := by
    intro n hn
    unfold Seen.rpcTopic
    have hrequest := h _ (hn (.request n) (by simp [serviceRoles]))
    have hreply := h _ (hn (.reply n) (by simp [serviceRoles]))
    rw [hrequest, hreply]
  cases w with
  | service n =>
    have hn := hrpc n fun r hr => hr
    simp only [Seen.notices, hn]
  | action a =>
    have hg := hrpc (partName a .goal) fun r hr => by simp_all [Whole.roles]
    have hr := hrpc (partName a .result) fun r hr => by simp_all [Whole.roles]
    have hc := hrpc (partName a .cancel) fun r hr => by simp_all [Whole.roles]
    have hf := h (.feedback a) (by simp [Whole.roles])
    have hs := h (.status a) (by simp [Whole.roles])
    simp only [Seen.notices, Seen.rpcAction, hg, hr, hc, hf, hs]

lemma noticesOf_notices (seen : Seen) (w w' : Whole) :
    noticesOf w (seen.notices env w') = if w' = w then seen.notices env w else [] := by
  by_cases hw : w' = w
  · subst hw
    rw [if_pos rfl, noticesOf, List.filter_eq_self]
    cases w' <;> simp only [Seen.notices] <;> split <;> simp [Event.isNoticeOf, Seen.rpcTopic]
  · rw [if_neg hw, noticesOf, List.filter_eq_nil_iff]
    have hw' : w ≠ w' := fun h => hw h.symm
    cases w' <;> simp only [Seen.notices] <;> split <;>
      simp [Event.isNoticeOf, Seen.rpcTopic, hw']

lemma noticesOf_completed {seen : Seen} {w : Whole} (hw : w.Plain) :
    noticesOf w (seen.completed env r) =
      if r ∈ w.roles ∧ Complete seen w.roles then seen.notices env w else [] := by
  simp only [mem_roles_iff hw]
  unfold Seen.completed
  by_cases hr : r.whole = w
  · subst hr
    by_cases hc : Complete seen r.whole.roles
    · have hboth : r.whole = r.whole ∧ Complete seen r.whole.roles := ⟨rfl, hc⟩
      rw [if_pos hc, if_pos hboth, noticesOf_notices, if_pos rfl]
    · have hnot : ¬ (r.whole = r.whole ∧ Complete seen r.whole.roles) := fun h => hc h.2
      rw [if_neg hc, if_neg hnot]
      rfl
  · have hnot : ¬ (r.whole = w ∧ Complete seen w.roles) := fun h => hr h.1
    rw [if_neg hnot]
    split
    · rw [noticesOf_notices, if_neg hr]
    · rfl

lemma noticesOf_step (h : s.participant.Undiscovered) (hts : ∀ t' ∈ ts ++ [t], env.InScheme t')
    (hnd : ((ts ++ [t]).map DdsTopic.topicName).Nodup) {w : Whole} (hw : w.Plain) :
    noticesOf w (newEvents (discover env s ts) (discover env s (ts ++ [t]))) =
      if Completes DdsTopic.topicName (w.roles.map Role.topicName) ts t then
        (seenOf (ts ++ [t])).notices env w
      else [] := by
  have hts' : ∀ t' ∈ ts, env.InScheme t' := fun t' ht' => hts t' (List.mem_append_left _ ht')
  obtain ⟨r, htopic, htrace, -, -⟩ := discover_step hts hnd
    (discover_knows h hts' (snoc_new hnd).1).1
  rw [newEvents_eq htrace, noticesOf_completed hw]
  have hmem : r ∈ w.roles ↔ t.topicName ∈ w.roles.map Role.topicName := by
    rw [htopic, List.mem_map]
    exact ⟨fun h => ⟨r, h, rfl⟩, fun ⟨r', hr', heq⟩ => Role.topicName_inj.mp heq ▸ hr'⟩
  have hiff : (r ∈ w.roles ∧ Complete (seenOf (ts ++ [t])) w.roles) ↔
      Completes DdsTopic.topicName (w.roles.map Role.topicName) ts t := by
    rw [Completes, complete_names, hmem]
    rfl
  simp only [hiff]

lemma discover_trace (h : s.participant.Undiscovered) (hts : ∀ t ∈ ts, env.InScheme t)
    (hnd : (ts.map DdsTopic.topicName).Nodup) : s.trace <+: (discover env s ts).trace := by
  induction ts using List.reverseRecOn with
  | nil => exact List.prefix_rfl
  | append_singleton ts t ih =>
    have hts' : ∀ t' ∈ ts, env.InScheme t' := fun t' ht' => hts t' (List.mem_append_left _ ht')
    obtain ⟨r, -, htrace, -, -⟩ := discover_step hts hnd
      (discover_knows h hts' (snoc_new hnd).1).1
    rw [htrace]
    exact (ih hts' (snoc_new hnd).1).trans (List.prefix_append _ _)

lemma roles_ne_nil (w : Whole) : w.roles ≠ [] := by
  cases w <;> simp [Whole.roles, serviceRoles]

lemma noticesOf_total (h : s.participant.Undiscovered) (hts : ∀ t ∈ ts, env.InScheme t)
    (hnd : (ts.map DdsTopic.topicName).Nodup) {w : Whole} (hw : w.Plain) :
    noticesOf w (newEvents s (discover env s ts)) =
      if Complete (seenOf ts) w.roles then (seenOf ts).notices env w else [] := by
  have hnil : w.roles.map Role.topicName ≠ [] := by simp [roles_ne_nil]
  have hstep : ∀ (ts : List DdsTopic) (t : DdsTopic), (∀ t' ∈ ts ++ [t], env.InScheme t') →
      ((ts ++ [t]).map DdsTopic.topicName).Nodup →
        noticesOf w (newEvents s (discover env s (ts ++ [t]))) =
          noticesOf w (newEvents s (discover env s ts)) ++
            if Completes DdsTopic.topicName (w.roles.map Role.topicName) ts t then
              (seenOf (ts ++ [t])).notices env w
            else [] := by
    intro ts t hts hnd
    have hts' : ∀ t' ∈ ts, env.InScheme t' := fun t' ht' => hts t' (List.mem_append_left _ ht')
    obtain ⟨es, hes⟩ := discover_trace h hts' (snoc_new hnd).1
    obtain ⟨r, -, htrace, -, -⟩ := discover_step hts hnd
      (discover_knows h hts' (snoc_new hnd).1).1
    rw [← noticesOf_step h hts hnd hw, newEvents_eq htrace, newEvents_eq hes.symm]
    rw [← hes, List.append_assoc] at htrace
    rw [newEvents_eq htrace, noticesOf, noticesOf, noticesOf, List.filter_append]
  have hout := out_eq (fun ts => noticesOf w (newEvents s (discover env s ts)))
    (fun m => Seen.notices (fun r => m r.topicName) env w) hnil
    (fun m m' hm => notices_congr fun r hr => hm _ (List.mem_map_of_mem hr))
    (by simp [discover, newEvents, noticesOf]) hstep hts hnd
  simp only [complete_names] at hout
  exact hout

/-- **Discovery is complete and does not depend on the order.** Whatever topics of the scheme
come in, each of a name of its own: a plain service and an action are notified once, by the last
of their topics, with the topics discovered; and any other order leaves the same maps. -/
theorem discovery_complete (env : Env) (s : State) (h : s.participant.Undiscovered)
    (ts : List DdsTopic) (hts : ∀ t ∈ ts, env.InScheme t)
    (hnd : (ts.map DdsTopic.topicName).Nodup) :
    (∀ w : Whole, w.Plain → NotifiedOnce env s ts w) ∧
      ∀ ts', ts'.Perm ts →
        SameMaps (discover env s ts').participant (discover env s ts).participant := by
  refine ⟨fun w hw => ⟨?_, ?_⟩, ?_⟩
  · exact noticesOf_total h hts hnd hw
  · rintro pre t post rfl
    have hsplit : (pre ++ t :: post) = (pre ++ [t]) ++ post := by simp
    have hvalid : ∀ t' ∈ pre ++ [t], env.InScheme t' :=
      fun t' ht' => hts t' (hsplit ▸ List.mem_append_left _ ht')
    have hnames : ((pre ++ [t]).map DdsTopic.topicName).Nodup := by
      rw [hsplit, List.map_append] at hnd
      exact hnd.of_append_left
    rw [noticesOf_step h hvalid hnames hw]
    split
    · next hc =>
      have hall : ∀ k ∈ w.roles.map Role.topicName,
          (seen DdsTopic.topicName (pre ++ [t]) k).isSome :=
        hc.2
      refine notices_congr fun r hr => ?_
      have hsome := hall r.topicName (List.mem_map_of_mem hr)
      rw [seenOf, seenOf, hsplit, seen_append hsome]
    · rfl
  · intro ts' hperm
    have hts' : ∀ t ∈ ts', env.InScheme t := fun t ht => hts t (hperm.mem_iff.mp ht)
    have hnd' : (ts'.map DdsTopic.topicName).Nodup := (hperm.map _).nodup_iff.mpr hnd
    obtain ⟨hknows, hreaders⟩ := discover_knows h hts hnd
    obtain ⟨hknows', hreaders'⟩ := discover_knows h hts' hnd'
    have hseen : seenOf ts' = seenOf ts := by
      unfold seenOf
      rw [seen_perm hperm hnd']
    refine ⟨fun n => ?_, ?_, fun a => ?_, fun k => ?_⟩
    · rw [hknows'.services.find, hknows.services.find, hseen]
    · rw [hknows'.services.generation, hknows.services.generation]
    · rw [hknows'.actions, hknows.actions, hseen]
    · rw [hreaders', hreaders, readerOf, readerOf, seen_perm hperm (nodup_key hnd')]

/-- The topics of an action and of a service, as they come in. -/
def fibonacciTopics : List DdsTopic :=
  ((Whole.action "fibonacci/_action/".toList).roles ++ serviceRoles "add_two_ints".toList).map
    fun r => { topicName := r.topicName }

/-- The user listens to what is discovered. -/
def discoveringEnv : Env :=
  { Env.silent with callbacks :=
      { Callbacks.unset with serviceNotification := true, actionNotification := true } }

theorem discovery_complete_fibonacci :
    (∀ w : Whole, w.Plain → NotifiedOnce discoveringEnv {} fibonacciTopics w) ∧
      ∀ ts', ts'.Perm fibonacciTopics →
        SameMaps (discover discoveringEnv {} ts').participant
          (discover discoveringEnv {} fibonacciTopics).participant := by
  refine discovery_complete discoveringEnv {} ⟨rfl, rfl⟩ fibonacciTopics (fun t ht => ?_)
    (by decide)
  obtain ⟨r, hr, rfl⟩ := List.mem_map.mp ht
  have hdiscoverer : ([] : Str) ≠ "enabler".toList := by decide
  refine ⟨⟨rfl, hdiscoverer⟩, r, ?_, rfl⟩
  fin_cases hr <;> first | exact List.cons_ne_nil _ _ | exact ⟨"fibonacci/_action".toList, rfl⟩

end Runs

end DdsEnabler
