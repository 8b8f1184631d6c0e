import DdsEnabler.AnnouncingActions

/-!
Announcements, part by part.

A wait changes the participant in one of two ways: it leaves the endpoint that it simulated alone,
or with its reader. An action is announced as a sequence of five parts, each with a look-up of
types, which leaves the participant as it is, and an entry, which neither asks nor notifies anybody.
The first part that fails ends the announcement, and what has been entered by then stays.
-/

namespace DdsEnabler

open Exec Tables RpcInfo

/-! ### Waits -/

instance (env : Env) (topic : DdsTopic) : Decidable (env.CreatesReader topic) :=
  inferInstanceAs (Decidable (_ ∧ _))

/-- The participant after the wait for a topic. -/
def Participant.awaited (p : Participant) (env : Env) (topic : DdsTopic) : Participant :=
  if env.CreatesReader topic then p.withWriter env topic else (p.simulateEndpoint topic).2

section Wait

variable (p : Participant) (env : Env) (topic : DdsTopic)

@[simp] lemma awaited_services : (p.awaited env topic).services = p.services := by
  unfold Participant.awaited
  split <;> rfl

@[simp] lemma awaited_actions : (p.awaited env topic).actions = p.actions := by
  unfold Participant.awaited
  split <;> rfl

@[simp] lemma awaited_endpoints :
    (p.awaited env topic).endpoints = p.endpoints ++ [⟨topic, p.nextGuid⟩] := by
  unfold Participant.awaited
  split <;> rfl

@[simp] lemma awaited_nextGuid : (p.awaited env topic).nextGuid = p.nextGuid + 1 := by
  unfold Participant.awaited
  split <;> rfl

lemma lookupReader_simulateEndpoint (name : Str) :
    (p.simulateEndpoint topic).2.lookupReader name = p.lookupReader name := rfl

lemma lookupReader_awaited (h : p.lookupReader topic.topicName = none) :
    ((p.awaited env topic).lookupReader topic.topicName).isSome ↔ env.CreatesReader topic := by
  unfold Participant.awaited
  split
  · next hc =>
    obtain ⟨f, hf⟩ := withWriter_found p env topic
    simp [hf, hc]
  · next hc =>
    rw [lookupReader_simulateEndpoint, h]
    simpa using hc

lemma createTopicWriter_awaited (s : State) :
    (createTopicWriter env topic).run s =
      .ok ((s.participant.simulateEndpoint topic).1,
          (s.participant.awaited env topic).lookupReader topic.topicName)
        { s with participant := s.participant.awaited env topic } := by
  unfold Participant.awaited
  by_cases h : env.CreatesReader topic
  · rw [if_pos h]
    exact createTopicWriter_run h s
  · rw [if_neg h]
    by_cases hcreated : env.readerCreated topic = true
    · have htype : env.isTypeObjectTopic { topic with discoverer := env.id } = true := by
        by_contra hfalse
        exact h ⟨hcreated, by simpa using hfalse⟩
      simp [createTopicWriter, hcreated, createReader, htype, run_discard]
    · simp [createTopicWriter, hcreated]

lemma createServiceRequestWriter_late {service : ServiceDiscovered} {s : State}
    (h : ¬ env.CreatesReader service.topicRequest)
    (hf : s.participant.lookupReader service.topicRequest.topicName = none) :
    (createServiceRequestWriter env service).run s =
      .ok none { s with
        participant := (s.participant.simulateEndpoint service.topicRequest).2 } := by
  have hnone : ((s.participant.awaited env service.topicRequest).lookupReader
      service.topicRequest.topicName) = none := by
    rw [← Option.not_isSome_iff_eq_none, lookupReader_awaited _ _ _ hf]
    exact h
  simp [createServiceRequestWriter, hf, createTopicWriter_awaited, hnone]
  simp [Participant.awaited, h]

end Wait

/-! ### Parts -/

/-- What is found of a part of an action: a service, or a topic and the name that its reader is
looked up under. -/
inductive Part
  | service (v : ServiceDiscovered)
  | topic (t : DdsTopic) (lookedUp : Str)

/-- The topic that is awaited for a part. -/
def Part.awaited : Part → DdsTopic
  | .service v => v.topicRequest
  | .topic t _ => t

/-- The parts in the order in which they are announced. -/
def announcedParts : List ActionType := [.goal, .cancel, .result, .feedback, .status]

/-- The name under which a reader is looked up before the part is entered. -/
def Part.lookedUp : Part → Str
  | .service v => v.topicRequest.topicName
  | .topic _ lookedUp => lookedUp

/-- The name under which the reader of a part of an action is looked up: none for the status. -/
def lookedUpName (actionName : Str) : ActionType → Str
  | .status => []
  | t => partTopic actionName t

section Parts

variable (env : Env) (info : ActionInfo) (actionName : Str)

/-- Look up the types of a part. -/
def findPart : ActionType → M (Option Part)
  | .feedback => do
    return (← fillTopicStruct env (partTopic actionName .feedback) info.feedback).map
      (.topic · (partTopic actionName .feedback))
  | .status => do
    return (← fillTopicStruct env (partTopic actionName .status) info.status).map (.topic · [])
  | t => do
    return (← fillServiceType env (info.service t)
      { serviceName := partName actionName t, protocol := .ros2 } .ros2).map .service

/-- Enter a part: whether its writer was created, and what that leaves. -/
def Participant.enterPart (p : Participant) : Part → Bool × Participant
  | .service v =>
    if (p.lookupReader v.topicRequest.topicName).isSome then (false, p)
    else if env.CreatesReader v.topicRequest then (true, p.served env v)
    else (false, (p.simulateEndpoint v.topicRequest).2)
  | .topic t lookedUp =>
    if (p.lookupReader lookedUp).isSome then (true, p)
    else (((p.awaited env t).lookupReader t.topicName).isSome, p.awaited env t)

def announcePart (t : ActionType) : M Bool := do
  match ← findPart env info actionName t with
  | none => return false
  | some part => onParticipant (·.enterPart env part)

/-- Announce the parts one after the other, up to the first that fails. -/
def announceParts : List ActionType → M Bool
  | [] => return true
  | t :: l => do if ← announcePart env info actionName t then announceParts l else return false

lemma ignores_findPart (t : ActionType) : Ignores (findPart env info actionName t) := by
  cases t
  case feedback => exact (ignores_fillTopicStruct env _ _).bind fun _ => Ignores.pure _
  case status => exact (ignores_fillTopicStruct env _ _).bind fun _ => Ignores.pure _
  all_goals exact (ignores_fillServiceType env _ _ _).bind fun _ => Ignores.pure _

lemma findPart_service {t : ActionType} (ht : isServicePart t) {s s' : State} {part : Part}
    (h : (findPart env info actionName t).run s = .ok (some part) s') :
    ∃ request reply, request.topicName = partTopic actionName t ∧
      part = .service (.queried (partName actionName t) .ros2 request reply) := by
  have hrun : (do
      return (← fillServiceType env (info.service t)
        { serviceName := partName actionName t, protocol := .ros2 } .ros2).map Part.service).run s =
        .ok (some part) s' := by
    cases t <;> first | exact h | cases ht
  obtain ⟨r, u, hr, hrun⟩ := ok_of_bind hrun
  rcases r with _ | v
  · cases hrun
  · cases hrun
    obtain ⟨request, reply, hname, rfl⟩ := fillServiceType_part ht hr
    exact ⟨request, reply, hname, rfl⟩

lemma findPart_topic {t : ActionType} (ht : t = .feedback ∨ t = .status) {s s' : State}
    {part : Part} (h : (findPart env info actionName t).run s = .ok (some part) s') :
    ∃ topic, topic.topicName = partTopic actionName t ∧
      part = .topic topic (lookedUpName actionName t) := by
  have hrun : ∀ {i : TopicInfo} {lookedUp : Str}, (do
      return (← fillTopicStruct env (partTopic actionName t) i).map (Part.topic · lookedUp)).run s =
        .ok (some part) s' → ∃ topic, topic.topicName = partTopic actionName t ∧
      part = .topic topic lookedUp := by
    intro i lookedUp h
    obtain ⟨r, u, hr, h⟩ := ok_of_bind h
    rcases r with _ | topic
    · cases h
    · cases h
      exact ⟨topic, fillTopicStruct_some env hr, rfl⟩
  rcases ht with rfl | rfl
  · exact hrun h
  · exact hrun h

lemma findPart_some {t : ActionType} (ht : t ≠ .none) {s s' : State} {part : Part}
    (h : (findPart env info actionName t).run s = .ok (some part) s') :
    part.awaited.topicName = partTopic actionName t ∧
      part.lookedUp = lookedUpName actionName t := by
  rcases hs : isServicePart t
  · obtain ⟨topic, htopic, rfl⟩ :=
      findPart_topic env info actionName (topicPart_of_not hs ht) h
    exact ⟨htopic, rfl⟩
  · obtain ⟨request, reply, htopic, rfl⟩ := findPart_service env info actionName hs h
    refine ⟨htopic, ?_⟩
    cases t <;> first | exact htopic | cases hs

end Parts

/-! ### Readers of the parts -/

/-- A part is entered: a service without a reader, if one is created in time; a topic with a reader
too. -/
def Participant.Admits (p : Participant) (env : Env) : Part → Prop
  | .service v => p.lookupReader v.topicRequest.topicName = none ∧ env.CreatesReader v.topicRequest
  | .topic t lookedUp => p.lookupReader lookedUp ≠ none ∨ p.lookupReader t.topicName ≠ none ∨
      env.CreatesReader t

section Readers

variable {p : Participant} {env : Env} {topic : DdsTopic} {part : Part} {name : Str}

variable (p env) in
lemma lookupReader_awaited_ne (hname : topic.topicName ≠ name) :
    (p.awaited env topic).lookupReader name = none ↔ p.lookupReader name = none := by
  unfold Participant.awaited
  split
  · refine ⟨fun h => ?_, lookupReader_withWriter hname⟩
    rw [lookupReader_eq_none] at h ⊢
    intro k hk
    have hlookup := h k hk
    rw [lookup_withWriter, if_neg] at hlookup
    · exact hlookup
    · rintro rfl
      exact hname hk
  · exact Iff.rfl

lemma lookupReader_awaited_some (env : Env) (topic : DdsTopic) (h : p.lookupReader name ≠ none) :
    (p.awaited env topic).lookupReader name ≠ none := by
  by_cases hname : topic.topicName = name
  · subst hname
    unfold Participant.awaited
    split
    · obtain ⟨f, hf⟩ := withWriter_found p env topic
      simp [hf]
    · exact h
  · exact fun hnone => h ((lookupReader_awaited_ne p env hname).mp hnone)

lemma lookupReader_enterPart_ne (hname : part.awaited.topicName ≠ name) :
    (p.enterPart env part).2.lookupReader name = none ↔ p.lookupReader name = none := by
  cases part with
  | service v =>
    simp only [Participant.enterPart]
    split
    · exact Iff.rfl
    · split
      · next hc =>
        have hne := lookupReader_awaited_ne p env hname
        rw [Participant.awaited, Part.awaited, if_pos hc] at hne
        exact hne
      · exact Iff.rfl
  | topic t lookedUp =>
    simp only [Participant.enterPart]
    split
    · exact Iff.rfl
    · exact lookupReader_awaited_ne p env hname

lemma enterPart_actions : (p.enterPart env part).2.actions = p.actions := by
  cases part with
  | service v =>
    simp only [Participant.enterPart]
    split
    · rfl
    · split
      · rfl
      · rfl
  | topic t lookedUp =>
    simp only [Participant.enterPart]
    split
    · rfl
    · exact awaited_actions p env t

lemma enterPart_fst : (p.enterPart env part).1 = true ↔ p.Admits env part := by
  cases part with
  | service v =>
    rcases hf : p.lookupReader v.topicRequest.topicName with _ | f
    · by_cases hc : env.CreatesReader v.topicRequest
      · simp [Participant.enterPart, Participant.Admits, hf, hc]
      · simp [Participant.enterPart, Participant.Admits, hf, hc]
    · simp [Participant.enterPart, Participant.Admits, hf]
  | topic t lookedUp =>
    rcases hl : p.lookupReader lookedUp with _ | f
    · rcases hf : p.lookupReader t.topicName with _ | f
      · simp [Participant.enterPart, Participant.Admits, hl, hf, lookupReader_awaited p env t hf]
      · have hthere : p.lookupReader t.topicName ≠ none := by simp [hf]
        have hstays := lookupReader_awaited_some env t hthere
        simp [Participant.enterPart, Participant.Admits, hl, hf,
          Option.isSome_iff_ne_none.mpr hstays]
    · simp [Participant.enterPart, Participant.Admits, hl]

lemma admits_congr {p p' : Participant} {part : Part}
    (hawaited : p'.lookupReader part.awaited.topicName = none ↔
      p.lookupReader part.awaited.topicName = none)
    (hlooked : p'.lookupReader part.lookedUp = none ↔ p.lookupReader part.lookedUp = none) :
    p'.Admits env part ↔ p.Admits env part := by
  cases part with
  | service v => exact and_congr_left fun _ => hawaited
  | topic t lookedUp =>
    exact or_congr (not_congr hlooked) (or_congr_left (not_congr hawaited))

end Readers

/-- The readers that count for the parts are the same: those of their topics, and nameless ones. -/
structure Agrees (actionName : Str) (l : List ActionType) (p q : Participant) : Prop where
  parts : ∀ t ∈ l, q.lookupReader (partTopic actionName t) = none ↔
    p.lookupReader (partTopic actionName t) = none
  nameless : q.lookupReader [] = none ↔ p.lookupReader [] = none

section Agrees

variable {env : Env} {info : ActionInfo} {actionName : Str} {t : ActionType}
  {l : List ActionType} {p q : Participant} {s s' : State} {part : Part}

lemma Agrees.of_eq (h : ∀ name, q.lookupReader name = p.lookupReader name) :
    Agrees actionName l p q := ⟨fun t _ => by rw [h], by rw [h]⟩

lemma Agrees.admits (h : Agrees actionName (t :: l) p q) (ht : t ≠ .none)
    (hfind : (findPart env info actionName t).run s = .ok (some part) s') :
    q.Admits env part ↔ p.Admits env part := by
  obtain ⟨hawaited, hlooked⟩ := findPart_some env info actionName ht hfind
  have hpart := h.parts t List.mem_cons_self
  refine admits_congr (by rw [hawaited]; exact hpart) ?_
  rw [hlooked]
  cases t with
  | status => exact h.nameless
  | none => exact hpart
  | goal => exact hpart
  | result => exact hpart
  | cancel => exact hpart
  | feedback => exact hpart

lemma Agrees.tail (h : Agrees actionName (t :: l) p q) : Agrees actionName l p q :=
  ⟨fun t' ht' => h.parts t' (List.mem_cons_of_mem _ ht'), h.nameless⟩

lemma Agrees.enter (h : Agrees actionName l p q) (hnot : t ∉ l) (ht : t ≠ .none)
    (hl : ∀ t' ∈ l, t' ≠ .none)
    (hfind : (findPart env info actionName t).run s = .ok (some part) s') :
    Agrees actionName l p (q.enterPart env part).2 := by
  obtain ⟨hawaited, -⟩ := findPart_some env info actionName ht hfind
  refine ⟨fun t' ht' => ?_, ?_⟩
  · rw [← h.parts t' ht']
    refine lookupReader_enterPart_ne fun heq => hnot ?_
    rw [hawaited] at heq
    exact (partTopic_inj ht (hl t' ht') heq).2 ▸ ht'
  · rw [← h.nameless]
    exact lookupReader_enterPart_ne fun heq => partTopic_ne_nil (hawaited.symm.trans heq)

end Agrees

section Whole

variable (env : Env) (info : ActionInfo) (actionName : Str)

/-! ### The whole from its parts -/

lemma isSome_bind {α β : Type} {x : M (Option α)} {f : Option α → M (Option β)} {y z : M Bool}
    (hx : Option.isSome <$> x = y) (hnone : f none = pure none)
    (hsome : ∀ a, Option.isSome <$> f (some a) = z) :
    Option.isSome <$> (x >>= f) = (do if ← y then z else return false) := by
  rw [← hx, map_bind, bind_map_left]
  refine bind_congr fun r => ?_
  rcases r with _ | a
  · simp [hnone]
  · simp [hsome]

lemma enterPart_service {v : ServiceDiscovered} {name : Str} (hname : v.serviceName = name)
    (s : State) :
    (Option.isSome <$> (do
      match ← createServiceRequestWriter env v with
      | none => return none
      | some service =>
        insertService name service
        return some (← readParticipant (·.services.weak name)))).run s =
      (onParticipant (·.enterPart env (.service v))).run s := by
  rw [onParticipant_run, map_eq_pure_bind]
  rcases hf : s.participant.lookupReader v.topicRequest.topicName with _ | f
  · by_cases hc : env.CreatesReader v.topicRequest
    · simp [createServiceRequestWriter_run_none hc hf, Participant.enterPart, hf, hc,
        insertService, Participant.served, hname]
    · simp [createServiceRequestWriter_late env hc hf, Participant.enterPart, hf, hc]
  · simp [createServiceRequestWriter_run_some hf, Participant.enterPart, hf]

lemma isSome_announceActionService {t : ActionType} (ht : isServicePart t) :
    Option.isSome <$> announceActionService env (info.service t) (partName actionName t) .ros2 =
      announcePart env info actionName t := by
  have hfind : findPart env info actionName t = (do
      return (← fillServiceType env (info.service t)
        { serviceName := partName actionName t, protocol := .ros2 } .ros2).map Part.service) := by
    cases t <;> first | rfl | cases ht
  unfold announceActionService announcePart
  rw [hfind, map_bind]
  simp only [bind_assoc, pure_bind]
  funext s
  change EStateM.run _ s = EStateM.run _ s
  rcases hrun : (fillServiceType env (info.service t)
      { serviceName := partName actionName t, protocol := .ros2 } .ros2).run s with
    ⟨r, u⟩ | ⟨e, u⟩
  · rw [run_bind_ok hrun, run_bind_ok hrun]
    rcases r with _ | v
    · rfl
    · obtain ⟨request, reply, -, rfl⟩ := fillServiceType_part ht hrun
      exact enterPart_service env rfl u
  · rw [run_bind_error hrun, run_bind_error hrun]

lemma isSome_announceActionTopic (i : TopicInfo) (topicName lookedUp : Str) :
    Option.isSome <$> announceActionTopic env i topicName lookedUp = (do
      match (← fillTopicStruct env topicName i).map (Part.topic · lookedUp) with
      | none => return false
      | some part => onParticipant (·.enterPart env part)) := by
  unfold announceActionTopic
  rw [map_bind]
  refine bind_congr fun r => ?_
  rcases r with _ | topic
  · rfl
  · funext s
    change EStateM.run _ s = EStateM.run _ s
    rcases hf : s.participant.lookupReader lookedUp with _ | f
    · rcases hr : (s.participant.awaited env topic).lookupReader topic.topicName with _ | f
      · simp [hf, createTopicWriter_awaited, hr, Participant.enterPart]
      · simp [hf, createTopicWriter_awaited, hr, Participant.enterPart]
    · simp [hf, Participant.enterPart]

lemma isSome_feedback :
    Option.isSome <$> announceActionTopic env info.feedback
        (rosTopicPrefix ++ actionName ++ actionFeedbackSuffix)
        (rosTopicPrefix ++ actionName ++ actionFeedbackSuffix) =
      announcePart env info actionName .feedback := by
  rw [isSome_announceActionTopic]
  unfold announcePart findPart
  simp only [bind_assoc, pure_bind]
  rfl

lemma isSome_status :
    Option.isSome <$> announceActionTopic env info.status
        (rosTopicPrefix ++ actionName ++ actionStatusSuffix) [] =
      announcePart env info actionName .status := by
  rw [isSome_announceActionTopic]
  unfold announcePart findPart
  simp only [bind_assoc, pure_bind]
  rfl

lemma isSome_queryActionParts :
    Option.isSome <$> queryActionParts env info { actionName, protocol := .ros2 } .ros2 =
      announceParts env info actionName announcedParts := by
  unfold queryActionParts
  refine isSome_bind (isSome_announceActionService env info actionName (t := .goal) rfl) rfl
    fun goal => ?_
  refine isSome_bind (isSome_announceActionService env info actionName (t := .cancel) rfl) rfl
    fun cancel => ?_
  refine isSome_bind (isSome_announceActionService env info actionName (t := .result) rfl) rfl
    fun result => ?_
  simp only [topicPrefix]
  refine isSome_bind (isSome_feedback env info actionName) rfl fun feedback => ?_
  refine isSome_bind (isSome_status env info actionName) rfl fun status => ?_
  rfl

/-! ### One part after the other -/

variable {env info actionName} {s u : State} {t : ActionType} {l : List ActionType}

lemma announceParts_found {part : Part}
    (h : (findPart env info actionName t).run s = .ok (some part) u) :
    (announceParts env info actionName (t :: l)).run s =
      if (u.participant.enterPart env part).1 then (announceParts env info actionName l).run
        { u with participant := (u.participant.enterPart env part).2 }
      else .ok false { u with participant := (u.participant.enterPart env part).2 } := by
  have hpart : (announcePart env info actionName t).run s =
      .ok (u.participant.enterPart env part).1
        { u with participant := (u.participant.enterPart env part).2 } := by
    unfold announcePart
    rw [run_bind_ok h, onParticipant_run]
  rw [announceParts, run_bind_ok hpart]
  split
  · rfl
  · rfl

lemma announceParts_missing (h : (findPart env info actionName t).run s = .ok none u) :
    (announceParts env info actionName (t :: l)).run s = .ok false u := by
  have hpart : (announcePart env info actionName t).run s = .ok false u := by
    unfold announcePart
    rw [run_bind_ok h]
    rfl
  rw [announceParts, run_bind_ok hpart]
  rfl

lemma announceParts_error {e : Exc} (h : (findPart env info actionName t).run s = .error e u) :
    (announceParts env info actionName (t :: l)).run s = .error e u := by
  have hpart : (announcePart env info actionName t).run s = .error e u := by
    unfold announcePart
    rw [run_bind_error h]
  rw [announceParts, run_bind_error hpart]

lemma announceParts_append (l l' : List ActionType) :
    announceParts env info actionName (l ++ l') = (do
      if ← announceParts env info actionName l then announceParts env info actionName l'
      else return false) := by
  induction l with
  | nil => rfl
  | cons t l ih =>
    rw [List.cons_append, announceParts, announceParts, bind_assoc]
    refine bind_congr fun b => ?_
    rcases b
    · rfl
    · simp only [if_true, ih]

end Whole

end DdsEnabler
