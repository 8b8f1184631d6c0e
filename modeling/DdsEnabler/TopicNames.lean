import DdsEnabler.Protocols
import DdsEnabler.Lib.Substrings

/-!
Topic names as an encoding of what topics are for.

The enabler builds the name of a topic from a protocol, the name of a service or an action, and
the role of the topic; `RpcInfo` takes the name apart again. It reads back all that is built,
under the provisos on names that the protocols need. The converse fails for one kind of names: the
test for the feedback and the status of an action cuts off the first three characters, whichever
of the three prefixes they are.
-/

namespace DdsEnabler

open RpcInfo Substrings

/-! ### The parser by position -/

namespace RpcInfo.Checked

/-- The three checks for a part of an action. -/
def actionPart (base : Str) : Option (Option (Str × ActionType)) := do
  if ← endsWith base actionGoalSuffix then
    return some (← cutEnd base actionGoalSuffix.length, .goal)
  else if ← endsWith base actionResultSuffix then
    return some (← cutEnd base actionResultSuffix.length, .result)
  else if ← endsWith base actionCancelSuffix then
    return some (← cutEnd base actionCancelSuffix.length, .cancel)
  else return none

def ofService (i : RpcInfo) (st : ServiceType) (base : Str) : Option RpcInfo := do
  match ← actionPart base with
  | some (a, t) =>
    return { i with serviceType := st, serviceName := base, actionName := a, rpcType := .action,
                    actionType := t }
  | none => return { i with serviceType := st, serviceName := base, rpcType := .service }

def ofTopicSuffix (i : RpcInfo) (base : Str) : Option RpcInfo := do
  if ← endsWith base ('/' :: actionFeedbackSuffix) then
    return { i with actionName := ← cutEnd base actionFeedbackSuffix.length, rpcType := .action,
                    actionType := .feedback }
  else if ← endsWith base ('/' :: actionStatusSuffix) then
    return { i with actionName := ← cutEnd base actionStatusSuffix.length, rpcType := .action,
                    actionType := .status }
  else return i

/-- `extract_rpc_info` with the positions its substrings are taken at; none where one of them is
past the end of its string. -/
def extractRpcInfo (i : RpcInfo) : Option RpcInfo := do
  let t := i.topicName
  match i.protocol with
  | .ros2 =>
    if rosRequestPrefix.isPrefixOf t && (← endsWith t rosRequestSuffix) then
      ofService i .request (← cutEnds t rosRequestPrefix.length rosRequestSuffix.length)
    else if rosReplyPrefix.isPrefixOf t && (← endsWith t rosReplySuffix) then
      ofService i .reply (← cutEnds t rosReplyPrefix.length rosReplySuffix.length)
    else ofTopicSuffix i (← substrFrom t rosTopicPrefix.length)
  | .dds =>
    if ddsRequestPrefix.isPrefixOf t && (← endsWith t ddsRequestSuffix) then
      ofService i .request (← cutEnds t ddsRequestPrefix.length ddsRequestSuffix.length)
    else if ddsReplyPrefix.isPrefixOf t && (← endsWith t ddsReplySuffix) then
      ofService i .reply (← cutEnds t ddsReplyPrefix.length ddsReplySuffix.length)
    else return i
  | .unknown => return i

/-! No substring is out of range: each check of a suffix makes room for the cut after it. -/

lemma cutEnd_suffix {base suffix : Str} (h : suffix.isSuffixOf base) :
    cutEnd base suffix.length = some (dropEnd base suffix.length) :=
  cutEnd_eq (List.isSuffixOf_iff_suffix.mp h).length_le

lemma actionPart_eq (base : Str) : actionPart base = some (RpcInfo.actionPart base) := by
  simp only [actionPart, RpcInfo.actionPart, endsWith_eq, Option.bind_eq_bind, Option.bind_some]
  by_cases hg : actionGoalSuffix.isSuffixOf base
  · simp [hg, cutEnd_suffix hg]
  · by_cases hr : actionResultSuffix.isSuffixOf base
    · simp [hg, hr, cutEnd_suffix hr]
    · by_cases hc : actionCancelSuffix.isSuffixOf base
      · simp [hg, hr, hc, cutEnd_suffix hc]
      · simp [hg, hr, hc]

lemma ofService_eq (i : RpcInfo) (st : ServiceType) (base : Str) :
    ofService i st base = some (i.ofService st base) := by
  unfold ofService RpcInfo.ofService
  rw [actionPart_eq]
  simp only [Option.bind_eq_bind, Option.bind_some]
  rcases RpcInfo.actionPart base with _ | ⟨a, t⟩
  · rfl
  · rfl

lemma ofTopicSuffix_eq (i : RpcInfo) (base : Str) :
    ofTopicSuffix i base = some (i.ofTopicSuffix base) := by
  -- the cut leaves the slash that the check has asked for
  have hcut : ∀ suffix : Str, ('/' :: suffix).isSuffixOf base →
      cutEnd base suffix.length = some (dropEnd base suffix.length) := by
    intro suffix h
    refine cutEnd_eq ?_
    have hlen := (List.isSuffixOf_iff_suffix.mp h).length_le
    rw [List.length_cons] at hlen
    omega
  simp only [ofTopicSuffix, RpcInfo.ofTopicSuffix, endsWith_eq, Option.bind_eq_bind,
    Option.bind_some]
  by_cases hf : ('/' :: actionFeedbackSuffix).isSuffixOf base
  · simp [hf, hcut _ hf]
  · by_cases hs : ('/' :: actionStatusSuffix).isSuffixOf base
    · simp [hf, hs, hcut _ hs]
    · simp [hf, hs]

lemma cutEnds_name {t suffix : Str} (pre : Str) {c : Char} (hlast : pre.getLast? = some c)
    (hc : c ∉ suffix) (hpre : pre.isPrefixOf t) (hsuf : suffix.isSuffixOf t) :
    cutEnds t pre.length suffix.length = some (strip pre suffix t) := by
  obtain ⟨q, rfl⟩ := List.getLast?_eq_some_iff.mp hlast
  rw [List.isPrefixOf_iff_prefix] at hpre
  rw [List.isSuffixOf_iff_suffix] at hsuf
  exact cutEnds_eq (length_add_le hpre hsuf hc)

lemma cutEnds_nil {t suffix : Str} (hsuf : suffix.isSuffixOf t) :
    cutEnds t ([] : Str).length suffix.length = some (strip [] suffix t) := by
  rw [List.isSuffixOf_iff_suffix] at hsuf
  exact cutEnds_eq (by simpa using hsuf.length_le)

lemma length_of_looksRos {t : Str} (h : looksRos t) : rosTopicPrefix.length ≤ t.length := by
  have hlen : ∀ p : Str, p.length = 3 → p.isPrefixOf t → 3 ≤ t.length := by
    intro p hp hpre
    have := (List.isPrefixOf_iff_prefix.mp hpre).length_le
    omega
  simp only [looksRos, Bool.or_eq_true] at h
  rcases h with (h | h) | h
  · exact hlen _ rfl h
  · exact hlen _ rfl h
  · exact hlen _ rfl h

/-- **No substring is taken past the end**, whatever the topic name, and the parser reads what
the model reads. -/
lemma extractRpcInfo_eq (t : Str) :
    extractRpcInfo (blank t (detectProtocol t)) = some (RpcInfo.ofTopic t) := by
  rw [ofTopic_eq, detectProtocol_eq]
  by_cases hros : looksRos t
  · simp only [hros, if_true, extractRpcInfo, RpcInfo.extractRpcInfo, blank, endsWith_eq,
      Option.bind_eq_bind, Option.bind_some]
    split
    · next h =>
      rw [Bool.and_eq_true] at h
      rw [cutEnds_name rosRequestPrefix rfl (by decide) h.1 h.2]
      exact ofService_eq _ _ _
    · split
      · next h =>
        rw [Bool.and_eq_true] at h
        rw [cutEnds_name rosReplyPrefix rfl (by decide) h.1 h.2]
        exact ofService_eq _ _ _
      · rw [substrFrom_of_le (length_of_looksRos hros)]
        exact ofTopicSuffix_eq _ _
  · simp only [hros, Bool.false_eq_true, if_false, extractRpcInfo, RpcInfo.extractRpcInfo, blank,
      endsWith_eq, Option.bind_eq_bind, Option.bind_some]
    split
    · next h =>
      rw [Bool.and_eq_true] at h
      rw [ddsRequestPrefix, show "".toList = ([] : Str) from rfl, cutEnds_nil h.2]
      exact ofService_eq _ _ _
    · split
      · next h =>
        rw [Bool.and_eq_true] at h
        rw [ddsReplyPrefix, show "".toList = ([] : Str) from rfl, cutEnds_nil h.2]
        exact ofService_eq _ _ _
      · rfl

end RpcInfo.Checked

/-! ### What topics are built for -/

/-- The name of the request or of the reply topic of a service. -/
def serviceTopic : ServiceType → Protocol → Str → Option Str
  | .request => requestTopic
  | .reply => replyTopic
  | .none => fun _ _ => none

/-- The request or the reply of a service, that of a service of an action, or the feedback or the
status of an action. -/
inductive TopicRole
  | service (st : ServiceType)
  | part (t : ActionType) (st : ServiceType)
  | topic (t : ActionType)
  deriving DecidableEq

/-- What a topic is for: its protocol, the name of the service or of the action, and its role. -/
structure Purpose where
  protocol : Protocol
  name : Str
  role : TopicRole
  deriving DecidableEq

namespace Purpose

/-- The name that the enabler builds. -/
def topicName (x : Purpose) : Option Str :=
  match x.role with
  | .service st => serviceTopic st x.protocol x.name
  | .part t st => serviceTopic st x.protocol (partName x.name t)
  | .topic t => (topicPrefix x.protocol).map (· ++ x.name ++ partSuffix t)

/-- The provisos: the DDS protocol has no names that look like those of ROS 2, a service does not
end like a service of an action, the name of an action ends in a slash, and feedback and status
are those of ROS 2. -/
def Proper (x : Purpose) : Prop :=
  match x.role with
  | .service _ =>
    ¬ EndsLikeActionService x.name ∧ (x.protocol = .dds → looksRos x.name = false)
  | .part t _ =>
    isServicePart t ∧ x.name.getLast? = some '/' ∧
      (x.protocol = .dds → looksRos (partName x.name t) = false)
  | .topic t =>
    (t = .feedback ∨ t = .status) ∧ x.name.getLast? = some '/' ∧ x.protocol = .ros2

/-- What a topic is for, as it is reported. -/
def ReadIn (x : Purpose) (i : RpcInfo) : Prop :=
  i.protocol = x.protocol ∧ match x.role with
  | .service st => i.rpcType = .service ∧ i.serviceName = x.name ∧ i.serviceType = st
  | .part t st =>
    i.rpcType = .action ∧ i.actionName = x.name ∧ i.actionType = t ∧ i.serviceType = st
  | .topic t =>
    i.rpcType = .action ∧ i.actionName = x.name ∧ i.actionType = t ∧ i.serviceType = .none

end Purpose

section Decode

variable {p : Protocol} {st : ServiceType} {s t : Str}

lemma ofTopic_serviceTopic (ht : serviceTopic st p s = some t)
    (h : p = .dds → looksRos s = false) : RpcInfo.ofTopic t = (blank t p).ofService st s := by
  cases st with
  | request => exact ofTopic_requestTopic ht h
  | reply => exact ofTopic_replyTopic ht h
  | none => cases ht

lemma serviceTopic_ne_none (ht : serviceTopic st p s = some t) : st ≠ .none := by
  rintro rfl
  cases ht

@[simp] lemma protocol_ofService (i : RpcInfo) (st : ServiceType) (base : Str) :
    (i.ofService st base).protocol = i.protocol := by
  unfold RpcInfo.ofService
  split <;> rfl

lemma ofTopicSuffix_append {t : ActionType} (i : RpcInfo) (ht : t = .feedback ∨ t = .status)
    (hs : s.getLast? = some '/') :
    i.ofTopicSuffix (s ++ partSuffix t) =
      { i with actionName := s, rpcType := .action, actionType := t } := by
  obtain ⟨q, rfl⟩ := List.getLast?_eq_some_iff.mp hs
  have hself : ∀ suffix : Str, ('/' :: suffix).isSuffixOf (q ++ ['/'] ++ suffix) := by
    intro suffix
    rw [List.append_assoc]
    exact isSuffixOf_append_self q _
  rcases ht with rfl | rfl
  · simp only [RpcInfo.ofTopicSuffix, partSuffix, hself, if_true, dropEnd_append]
  · have hnot : ('/' :: actionFeedbackSuffix).isSuffixOf (q ++ ['/'] ++ actionStatusSuffix) =
        false := by
      rw [List.append_assoc]
      exact isSuffixOf_append_of_not (by decide) (by decide)
    simp only [RpcInfo.ofTopicSuffix, partSuffix, hnot, hself, Bool.false_eq_true, if_false,
      if_true, dropEnd_append]

/-- **What is built is read back.** -/
lemma readIn_ofTopic {x : Purpose} (hx : x.Proper) (ht : x.topicName = some t) :
    x.ReadIn (RpcInfo.ofTopic t) := by
  obtain ⟨p, name, role⟩ := x
  cases role with
  | service st =>
    obtain ⟨hname, hros⟩ := hx
    rw [ofTopic_serviceTopic ht hros, RpcInfo.ofService, actionPart_none hname]
    exact ⟨rfl, rfl, rfl, rfl⟩
  | part ty st =>
    obtain ⟨hpart, -, hros⟩ := hx
    rw [ofTopic_serviceTopic ht hros, RpcInfo.ofService, partName, actionPart_append name hpart]
    exact ⟨rfl, rfl, rfl, rfl, rfl⟩
  | topic ty =>
    obtain ⟨hty, hslash, hros⟩ := hx
    simp only at hros
    subst hros
    cases ht
    change Purpose.ReadIn _ (RpcInfo.ofTopic (rosTopicPrefix ++ name ++ partSuffix ty))
    rw [List.append_assoc, ofTopic_rosTopic, ofTopicSuffix_append _ hty hslash]
    exact ⟨rfl, rfl, rfl, rfl, rfl⟩

lemma eq_of_readIn {x y : Purpose} {i : RpcInfo} (hx : x.topicName = some t)
    (hy : y.topicName = some t) (h : x.ReadIn i) (h' : y.ReadIn i) : x = y := by
  obtain ⟨p, name, role⟩ := x
  obtain ⟨p', name', role'⟩ := y
  obtain ⟨hp, h⟩ := h
  obtain ⟨hp', h'⟩ := h'
  simp only at hp hp'
  subst hp
  subst hp'
  rcases role with st | ⟨ty, st⟩ | ty <;> rcases role' with st' | ⟨ty', st'⟩ | ty' <;>
    simp only at h h'
  case service.service =>
    obtain ⟨-, rfl, rfl⟩ := h
    obtain ⟨-, rfl, rfl⟩ := h'
    rfl
  case part.part =>
    obtain ⟨-, rfl, rfl, rfl⟩ := h
    obtain ⟨-, rfl, rfl, rfl⟩ := h'
    rfl
  case topic.topic =>
    obtain ⟨-, rfl, rfl, -⟩ := h
    obtain ⟨-, rfl, rfl, -⟩ := h'
    rfl
  case part.topic => exact absurd (h.2.2.2.symm.trans h'.2.2.2) (serviceTopic_ne_none hx)
  case topic.part => exact absurd (h'.2.2.2.symm.trans h.2.2.2) (serviceTopic_ne_none hy)
  -- a service and an action are told apart by the type
  all_goals exact absurd (h.1.symm.trans h'.1) (by simp)

/-- **Names of topics are read back.** The requests and replies of every service tell their
protocol, service and direction; what is built under the provisos tells what it was built for, so
that different purposes have different names; and no substring is taken past the end. -/
theorem names_read_back :
    (∀ p s st t, (p = .dds → looksRos s = false) → serviceTopic st p s = some t →
      (RpcInfo.ofTopic t).protocol = p ∧ (RpcInfo.ofTopic t).serviceName = s ∧
        (RpcInfo.ofTopic t).serviceType = st) ∧
    (∀ (x : Purpose) t, x.Proper → x.topicName = some t → x.ReadIn (RpcInfo.ofTopic t)) ∧
    (∀ (x y : Purpose) t, x.Proper → y.Proper → x.topicName = some t → y.topicName = some t →
      x = y) ∧
    ∀ t, Checked.extractRpcInfo (blank t (detectProtocol t)) = some (RpcInfo.ofTopic t) := by
  refine ⟨fun p s st t hros ht => ?_, fun x t hx ht => readIn_ofTopic hx ht,
    fun x y t hx hy ht ht' => ?_, Checked.extractRpcInfo_eq⟩
  · rw [ofTopic_serviceTopic ht hros]
    exact ⟨protocol_ofService _ _ _, serviceName_ofService _ _ _, serviceType_ofService _ _ _⟩
  · exact eq_of_readIn ht ht' (readIn_ofTopic hx ht) (readIn_ofTopic hy ht')

end Decode

/-! ### What is read, built again -/

/-- The name that the enabler builds from what is reported. -/
def RpcInfo.builtName (i : RpcInfo) : Option Str :=
  match i.serviceType, i.actionType with
  | .none, .feedback => some (rosTopicPrefix ++ i.actionName ++ actionFeedbackSuffix)
  | .none, .status => some (rosTopicPrefix ++ i.actionName ++ actionStatusSuffix)
  | .none, _ => none
  | st, _ => serviceTopic st i.protocol i.serviceName

/-- What is reported of a topic is what its name would be built from. -/
def ParsedSoundly (t : Str) : Prop :=
  (RpcInfo.ofTopic t).rpcType ≠ .none →
    (RpcInfo.ofTopic t).builtName = some t ∧
    ((RpcInfo.ofTopic t).rpcType = .action → (RpcInfo.ofTopic t).serviceType ≠ .none →
      (RpcInfo.ofTopic t).serviceName =
        partName (RpcInfo.ofTopic t).actionName (RpcInfo.ofTopic t).actionType)

/-- Two topics are attributed to one role of one service or action. -/
structure SameRole (i i' : RpcInfo) : Prop where
  rpc : i.rpcType ≠ .none
  rpcType : i.rpcType = i'.rpcType
  protocol : i.protocol = i'.protocol
  serviceType : i.serviceType = i'.serviceType
  actionType : i.actionType = i'.actionType
  service : i.rpcType = .service → i.serviceName = i'.serviceName
  action : i.rpcType = .action → i.actionName = i'.actionName

/-- A topic with the prefix of a request or a reply, and the suffix of the feedback or the status of
an action. -/
def Misread (t : Str) : Prop :=
  (rosRequestPrefix <+: t ∨ rosReplyPrefix <+: t) ∧
    EndsLikeActionTopic (t.drop rosTopicPrefix.length)

lemma exists_between {t suffix : Str} (pre : Str) {c : Char} (hlast : pre.getLast? = some c)
    (hc : c ∉ suffix) (hpre : pre <+: t) (hsuf : suffix <:+ t) : ∃ s, t = pre ++ s ++ suffix := by
  obtain ⟨q, rfl⟩ := List.getLast?_eq_some_iff.mp hlast
  have hlen := length_add_le hpre hsuf hc
  obtain ⟨r, rfl⟩ := hpre
  have hr : suffix <:+ r :=
    List.suffix_of_suffix_length_le hsuf (List.suffix_append _ _) (by
      simp only [List.length_append] at hlen
      omega)
  obtain ⟨s, rfl⟩ := hr
  exact ⟨s, (List.append_assoc _ _ _).symm⟩

/-- Every topic name is that of a request or a reply; or it has one of the three prefixes of ROS 2,
and is tested for the feedback and the status of an action; or nothing is read in it. -/
lemma topic_shape (t : Str) :
    (∃ p st s, serviceTopic st p s = some t ∧ (p = .dds → looksRos s = false)) ∨
    (∃ pre base, pre ∈ [rosTopicPrefix, rosRequestPrefix, rosReplyPrefix] ∧ t = pre ++ base ∧
      RpcInfo.ofTopic t = (blank t .ros2).ofTopicSuffix base) ∨
    (looksRos t = false ∧ RpcInfo.ofTopic t = blank t .dds) := by
  by_cases hros : looksRos t
  · by_cases hreq : rosRequestPrefix <+: t ∧ rosRequestSuffix <:+ t
    · obtain ⟨s, rfl⟩ := exists_between rosRequestPrefix rfl (by decide) hreq.1 hreq.2
      exact .inl ⟨.ros2, .request, s, rfl, by simp⟩
    · by_cases hrep : rosReplyPrefix <+: t ∧ rosReplySuffix <:+ t
      · obtain ⟨s, rfl⟩ := exists_between rosReplyPrefix rfl (by decide) hrep.1 hrep.2
        exact .inl ⟨.ros2, .reply, s, rfl, by simp⟩
      · refine .inr (.inl ?_)
        have hinfo : RpcInfo.ofTopic t =
            (blank t .ros2).ofTopicSuffix (t.drop rosTopicPrefix.length) := by
          rw [ofTopic_eq, detectProtocol_eq, if_pos hros, extractRpcInfo_ros, if_neg, if_neg]
          · simpa using hrep
          · simpa using hreq
        simp only [looksRos, Bool.or_eq_true, List.isPrefixOf_iff_prefix] at hros
        have hdrop : ∀ pre base : Str, pre.length = 3 → t = pre ++ base →
            t.drop rosTopicPrefix.length = base := by
          rintro pre base hpre rfl
          rw [show rosTopicPrefix.length = pre.length from hpre.symm, List.drop_left]
        rcases hros with (⟨base, rfl⟩ | ⟨base, rfl⟩) | ⟨base, rfl⟩
        · exact ⟨rosTopicPrefix, base, by simp, rfl, by rw [hinfo, hdrop _ _ rfl rfl]⟩
        · exact ⟨rosRequestPrefix, base, by simp, rfl, by rw [hinfo, hdrop _ _ rfl rfl]⟩
        · exact ⟨rosReplyPrefix, base, by simp, rfl, by rw [hinfo, hdrop _ _ rfl rfl]⟩
  · have hros' : looksRos t = false := by simpa using hros
    have hbefore : ∀ s suffix : Str, suffix.head? = some '_' → t = s ++ suffix →
        looksRos s = false := by
      rintro s suffix hs rfl
      rw [← looksRos_append hs, hros']
    by_cases hreq : ddsRequestSuffix <:+ t
    · obtain ⟨s, rfl⟩ := hreq
      exact .inl ⟨.dds, .request, s, rfl, fun _ => hbefore s ddsRequestSuffix rfl rfl⟩
    · by_cases hrep : ddsReplySuffix <:+ t
      · obtain ⟨s, rfl⟩ := hrep
        exact .inl ⟨.dds, .reply, s, rfl, fun _ => hbefore s ddsReplySuffix rfl rfl⟩
      · refine .inr (.inr ⟨hros', ?_⟩)
        rw [ofTopic_eq, detectProtocol_eq, if_neg hros]
        simp [extractRpcInfo, blank, hreq, hrep]

lemma parsedSoundly_serviceTopic {p : Protocol} {st : ServiceType} {s t : Str}
    (ht : serviceTopic st p s = some t) (h : p = .dds → looksRos s = false) : ParsedSoundly t := by
  intro _
  refine ⟨?_, fun haction hservice => (serviceName_ofTopic haction hservice).1⟩
  rw [ofTopic_serviceTopic ht h, RpcInfo.builtName]
  simp only [serviceType_ofService, serviceName_ofService, protocol_ofService]
  cases st with
  | request => exact ht
  | reply => exact ht
  | none => cases ht

lemma getLast?_of_suffix {u t : Str} (h : u <:+ t) (hu : u ≠ []) : t.getLast? = u.getLast? := by
  obtain ⟨v, rfl⟩ := h
  exact List.getLast?_append_of_ne_nil v hu

lemma getLast?_of_misread {t : Str} (h : Misread t) :
    t.getLast? = some 'k' ∨ t.getLast? = some 's' := by
  have hdrop := List.drop_suffix rosTopicPrefix.length t
  rcases h.2 with hf | hs
  · exact .inl (getLast?_of_suffix (hf.trans hdrop) (by simp))
  · exact .inr (getLast?_of_suffix (hs.trans hdrop) (by simp))

lemma not_misread_serviceTopic {p : Protocol} {st : ServiceType} {s t : Str}
    (ht : serviceTopic st p s = some t) : ¬ Misread t := by
  have hlast : t.getLast? = some 't' ∨ t.getLast? = some 'y' := by
    cases st with
    | request =>
      cases p <;> cases ht <;>
        exact .inl (getLast?_of_suffix (List.suffix_append _ _) (by decide))
    | reply =>
      cases p <;> cases ht <;>
        exact .inr (getLast?_of_suffix (List.suffix_append _ _) (by decide))
    | none => cases ht
  intro h
  have := getLast?_of_misread h
  grind

lemma ofTopicSuffix_ends {i : RpcInfo} {base : Str} (hst : i.serviceType = .none)
    (h : EndsLikeActionTopic base) :
    (i.ofTopicSuffix base).rpcType = .action ∧ (i.ofTopicSuffix base).serviceType = .none ∧
      (i.ofTopicSuffix base).builtName = some (rosTopicPrefix ++ base) := by
  have hbuilt : ∀ suffix : Str, '/' :: suffix <:+ base →
      rosTopicPrefix ++ dropEnd base suffix.length ++ suffix = rosTopicPrefix ++ base := by
    rintro suffix ⟨v, rfl⟩
    rw [show v ++ '/' :: suffix = v ++ ['/'] ++ suffix by simp, dropEnd_append, List.append_assoc]
  unfold RpcInfo.ofTopicSuffix
  by_cases hf : '/' :: actionFeedbackSuffix <:+ base
  · rw [if_pos (by simpa using hf)]
    refine ⟨rfl, hst, ?_⟩
    simp only [RpcInfo.builtName, hst]
    rw [hbuilt _ hf]
  · have hs : '/' :: actionStatusSuffix <:+ base := h.resolve_left hf
    rw [if_neg (by simpa using hf), if_pos (by simpa using hs)]
    refine ⟨rfl, hst, ?_⟩
    simp only [RpcInfo.builtName, hst]
    rw [hbuilt _ hs]

lemma ofTopicSuffix_not {i : RpcInfo} {base : Str} (h : ¬ EndsLikeActionTopic base) :
    i.ofTopicSuffix base = i := by
  rw [EndsLikeActionTopic, not_or] at h
  rw [RpcInfo.ofTopicSuffix, if_neg (by simpa using h.1), if_neg (by simpa using h.2)]

lemma parsedSoundly_topicSuffix {pre base t : Str}
    (hpre : pre ∈ [rosTopicPrefix, rosRequestPrefix, rosReplyPrefix]) (ht : t = pre ++ base)
    (hinfo : RpcInfo.ofTopic t = (blank t .ros2).ofTopicSuffix base) :
    ParsedSoundly t ↔ ¬ Misread t := by
  have hdrop : t.drop rosTopicPrefix.length = base := by
    subst ht
    fin_cases hpre <;> rfl
  by_cases hends : EndsLikeActionTopic base
  · obtain ⟨hrpc, hst, hbuilt⟩ := ofTopicSuffix_ends (i := blank t .ros2) rfl hends
    have hsound : ParsedSoundly t ↔ rosTopicPrefix ++ base = t := by
      unfold ParsedSoundly
      rw [hinfo, hrpc, hst, hbuilt]
      simp
    have hmis : Misread t ↔ rosRequestPrefix <+: t ∨ rosReplyPrefix <+: t := by
      rw [Misread, hdrop, and_iff_left hends]
    rw [hsound, hmis]
    subst ht
    fin_cases hpre <;> simp [rosTopicPrefix, rosRequestPrefix, rosReplyPrefix]
  · have hblank := ofTopicSuffix_not (i := blank t .ros2) hends
    refine iff_of_true (fun h => absurd ?_ h) fun h => hends (hdrop ▸ h.2)
    rw [hinfo, hblank]
    rfl

/-- **A topic name is read soundly** unless it has the prefix of a request or a reply and the suffix
of the feedback or the status of an action. -/
lemma parsedSoundly_iff (t : Str) : ParsedSoundly t ↔ ¬ Misread t := by
  rcases topic_shape t with ⟨p, st, s, ht, hros⟩ | ⟨pre, base, hpre, ht, hinfo⟩ | ⟨hros, hinfo⟩
  · exact iff_of_true (parsedSoundly_serviceTopic ht hros) (not_misread_serviceTopic ht)
  · exact parsedSoundly_topicSuffix hpre ht hinfo
  · refine iff_of_true (fun h => absurd ?_ h) fun h => ?_
    · rw [hinfo]
      rfl
    · simp only [looksRos, Bool.or_eq_false_iff] at hros
      rcases h.1 with hreq | hrep
      · rw [← List.isPrefixOf_iff_prefix, hros.1.2] at hreq
        cases hreq
      · rw [← List.isPrefixOf_iff_prefix, hros.2] at hrep
        cases hrep

lemma SameRole.builtName_eq {t t' : Str} (h : ParsedSoundly t) (h' : ParsedSoundly t')
    (hrole : SameRole (RpcInfo.ofTopic t) (RpcInfo.ofTopic t')) :
    (RpcInfo.ofTopic t).builtName = (RpcInfo.ofTopic t').builtName := by
  have hname := (h hrole.rpc).2
  have hname' := (h' (hrole.rpcType ▸ hrole.rpc)).2
  unfold RpcInfo.builtName
  rw [← hrole.serviceType, ← hrole.actionType, ← hrole.protocol]
  rcases consistent_ofTopic t with ⟨hst, hrpc⟩ | ⟨hst, hrpc⟩
  · -- a topic of an action
    have haction : (RpcInfo.ofTopic t).rpcType = .action := by
      have hnone := hrole.rpc
      revert hnone hrpc
      cases (RpcInfo.ofTopic t).rpcType <;> simp
    rw [hst, hrole.action haction]
    cases (RpcInfo.ofTopic t).actionType <;> rfl
  · -- a request or a reply, of a service or of a part of an action
    have hservice : (RpcInfo.ofTopic t).serviceName = (RpcInfo.ofTopic t').serviceName := by
      by_cases haction : (RpcInfo.ofTopic t).rpcType = .action
      · rw [hname haction hst, hname' (hrole.rpcType ▸ haction) (hrole.serviceType ▸ hst),
          hrole.action haction, hrole.actionType]
      · refine hrole.service ?_
        revert haction hrpc
        cases (RpcInfo.ofTopic t).rpcType <;> simp
    rw [hservice]
    revert hst
    cases (RpcInfo.ofTopic t).serviceType <;> simp

lemma eq_of_sameRole {t t' : Str} (h : ParsedSoundly t) (h' : ParsedSoundly t')
    (hrole : SameRole (RpcInfo.ofTopic t) (RpcInfo.ofTopic t')) : t = t' := by
  have hbuilt := (h hrole.rpc).1
  have hbuilt' := (h' (hrole.rpcType ▸ hrole.rpc)).1
  rw [hrole.builtName_eq h h', hbuilt'] at hbuilt
  exact (Option.some.inj hbuilt).symm

/-- **What is read is what is built**, and two names are read as one role only if they are equal:
for a pair of topic names this holds if and only if neither has the prefix of a request or a
reply before what ends like the feedback or the status of an action. -/
theorem parse_sound_iff (t t' : Str) :
    (ParsedSoundly t ∧ ParsedSoundly t' ∧
      (SameRole (RpcInfo.ofTopic t) (RpcInfo.ofTopic t') → t = t')) ↔
      ¬ Misread t ∧ ¬ Misread t' := by
  rw [← parsedSoundly_iff, ← parsedSoundly_iff]
  exact ⟨fun h => ⟨h.1, h.2.1⟩, fun h => ⟨h.1, h.2, eq_of_sameRole h.1 h.2⟩⟩

/-- The feedback of an action under the prefix of requests is told as its feedback. -/
def misreadTopic : Str := "rq/fibonacci/_action/feedback".toList

theorem feedback_misread :
    ¬ (∀ t, ParsedSoundly t) ∧
      ¬ ∀ t t', SameRole (RpcInfo.ofTopic t) (RpcInfo.ofTopic t') → t = t' := by
  refine ⟨fun h => ?_, fun h => ?_⟩
  · have hbuilt := (h misreadTopic (by decide)).1
    revert hbuilt
    decide
  · have heq := h misreadTopic "rt/fibonacci/_action/feedback".toList
      ⟨by decide, by decide, by decide, by decide, by decide, by decide, by decide⟩
    revert heq
    decide

end DdsEnabler
