import DdsEnabler.Json

/-!
The names of topics, services and actions, and what the enabler reads in a topic name.

Names are mangled by prefixes and suffixes, one set for each protocol. `RpcInfo.ofTopic`
takes a topic name apart; it decides which topics are parts of services and of actions.
-/

namespace DdsEnabler

inductive Protocol | ros2 | dds | unknown
  deriving DecidableEq

inductive RpcType | none | service | action
  deriving DecidableEq

inductive ServiceType | none | request | reply
  deriving DecidableEq

inductive ActionType | none | goal | result | cancel | feedback | status
  deriving DecidableEq

def rosTopicPrefix : Str := "rt/".toList
def fastddsTopicPrefix : Str := "".toList

def rosRequestPrefix : Str := "rq/".toList
def rosRequestSuffix : Str := "Request".toList
def rosReplyPrefix : Str := "rr/".toList
def rosReplySuffix : Str := "Reply".toList

def ddsRequestPrefix : Str := "".toList
def ddsRequestSuffix : Str := "_Request".toList
def ddsReplyPrefix : Str := "".toList
def ddsReplySuffix : Str := "_Reply".toList

def actionGoalSuffix : Str := "send_goal".toList
def actionResultSuffix : Str := "get_result".toList
def actionCancelSuffix : Str := "cancel_goal".toList
def actionFeedbackSuffix : Str := "feedback".toList
def actionStatusSuffix : Str := "status".toList

/-- The name of the request topic of a service. -/
def requestTopic : Protocol → Str → Option Str
  | .ros2, s => some (rosRequestPrefix ++ s ++ rosRequestSuffix)
  | .dds, s => some (ddsRequestPrefix ++ s ++ ddsRequestSuffix)
  | .unknown, _ => none

/-- The name of the reply topic of a service. -/
def replyTopic : Protocol → Str → Option Str
  | .ros2, s => some (rosReplyPrefix ++ s ++ rosReplySuffix)
  | .dds, s => some (ddsReplyPrefix ++ s ++ ddsReplySuffix)
  | .unknown, _ => none

/-- The prefix of the feedback and status topics of an action. -/
def topicPrefix : Protocol → Option Str
  | .ros2 => some rosTopicPrefix
  | .dds => some fastddsTopicPrefix
  | .unknown => none

structure RpcInfo where
  topicName : Str
  serviceName : Str
  actionName : Str
  protocol : Protocol
  rpcType : RpcType
  serviceType : ServiceType
  actionType : ActionType
  deriving DecidableEq

namespace RpcInfo

def detectProtocol (t : Str) : Protocol :=
  if rosTopicPrefix.isPrefixOf t || rosRequestPrefix.isPrefixOf t || rosReplyPrefix.isPrefixOf t
  then .ros2
  -- the other prefixes are empty strings, so this check comes last
  else if fastddsTopicPrefix.isPrefixOf t || ddsRequestPrefix.isPrefixOf t ||
    ddsReplyPrefix.isPrefixOf t then .dds
  else .unknown

/-- The string without its last `n` characters. -/
def dropEnd (s : Str) (n : Nat) : Str := s.take (s.length - n)

/-- The action a service name is a part of, and the part: the request and the reply branch
make the same three checks. -/
def actionPart (base : Str) : Option (Str × ActionType) :=
  if actionGoalSuffix.isSuffixOf base then some (dropEnd base actionGoalSuffix.length, .goal)
  else if actionResultSuffix.isSuffixOf base then
    some (dropEnd base actionResultSuffix.length, .result)
  else if actionCancelSuffix.isSuffixOf base then
    some (dropEnd base actionCancelSuffix.length, .cancel)
  else none

/-- What is known of a topic once it is a request or a reply of the service `base`. -/
def ofService (i : RpcInfo) (st : ServiceType) (base : Str) : RpcInfo :=
  match actionPart base with
  | some (a, t) =>
    { i with serviceType := st, serviceName := base, actionName := a, rpcType := .action,
             actionType := t }
  | none => { i with serviceType := st, serviceName := base, rpcType := .service }

/-- The feedback and status topics, which only ROS 2 actions have. -/
def ofTopicSuffix (i : RpcInfo) (base : Str) : RpcInfo :=
  if ('/' :: actionFeedbackSuffix).isSuffixOf base then
    { i with actionName := dropEnd base actionFeedbackSuffix.length, rpcType := .action,
             actionType := .feedback }
  else if ('/' :: actionStatusSuffix).isSuffixOf base then
    { i with actionName := dropEnd base actionStatusSuffix.length, rpcType := .action,
             actionType := .status }
  else i

/-- The string without its prefix `p` and its suffix `s`. -/
def strip (p s base : Str) : Str := dropEnd (base.drop p.length) s.length

def extractRpcInfo (i : RpcInfo) : RpcInfo :=
  match i.protocol with
  | .ros2 =>
    if rosRequestPrefix.isPrefixOf i.topicName && rosRequestSuffix.isSuffixOf i.topicName then
      i.ofService .request (strip rosRequestPrefix rosRequestSuffix i.topicName)
    else if rosReplyPrefix.isPrefixOf i.topicName && rosReplySuffix.isSuffixOf i.topicName then
      i.ofService .reply (strip rosReplyPrefix rosReplySuffix i.topicName)
    else i.ofTopicSuffix (i.topicName.drop rosTopicPrefix.length)
  | .dds =>
    if ddsRequestPrefix.isPrefixOf i.topicName && ddsRequestSuffix.isSuffixOf i.topicName then
      i.ofService .request (strip ddsRequestPrefix ddsRequestSuffix i.topicName)
    else if ddsReplyPrefix.isPrefixOf i.topicName && ddsReplySuffix.isSuffixOf i.topicName then
      i.ofService .reply (strip ddsReplyPrefix ddsReplySuffix i.topicName)
    else i
  -- "Invalid protocol" is thrown and caught by the constructor
  | .unknown => i

/-- The constructor of `RpcInfo`. -/
def ofTopic (t : Str) : RpcInfo :=
  extractRpcInfo ⟨t, [], [], detectProtocol t, .none, .none, .none⟩

/-! ### What is read in a name that was built -/

@[simp] lemma serviceName_ofService (i : RpcInfo) (st : ServiceType) (base : Str) :
    (i.ofService st base).serviceName = base := by
  unfold ofService
  split <;> rfl

@[simp] lemma serviceType_ofService (i : RpcInfo) (st : ServiceType) (base : Str) :
    (i.ofService st base).serviceType = st := by
  unfold ofService
  split <;> rfl

lemma serviceType_ofTopicSuffix (i : RpcInfo) (base : Str) :
    (i.ofTopicSuffix base).serviceType = i.serviceType := by
  unfold ofTopicSuffix
  split
  · rfl
  · split <;> rfl

lemma strip_append (p b s : Str) : strip p s (p ++ b ++ s) = b := by
  simp [strip, dropEnd]

lemma dropEnd_append (b s : Str) : dropEnd (b ++ s) s.length = b := by
  simp [dropEnd]

lemma prefix_append_iff {p s t : Str} (h : ∀ c ∈ t.head?, c ∉ p) : p <+: s ++ t ↔ p <+: s := by
  refine ⟨fun hp => ?_, fun hp => hp.trans (List.prefix_append s t)⟩
  rcases List.prefix_or_prefix_of_prefix hp (List.prefix_append s t) with hps | ⟨q, rfl⟩
  · exact hps
  · rcases q with _ | ⟨c, q⟩
    · simp
    · rw [List.prefix_append_right_inj] at hp
      obtain ⟨r, rfl⟩ := hp
      simpa using h c rfl

/-- The names that the DDS protocol takes for names of ROS 2. -/
def looksRos (s : Str) : Bool :=
  rosTopicPrefix.isPrefixOf s || rosRequestPrefix.isPrefixOf s || rosReplyPrefix.isPrefixOf s

lemma detectProtocol_eq (t : Str) :
    detectProtocol t = if looksRos t then .ros2 else .dds := by
  simp [detectProtocol, looksRos, fastddsTopicPrefix]

lemma looksRos_append {s t : Str} (h : t.head? = some '_') : looksRos (s ++ t) = looksRos s := by
  have key : ∀ p : Str, '_' ∉ p → p.isPrefixOf (s ++ t) = p.isPrefixOf s := by
    intro p hp
    have := prefix_append_iff (p := p) (s := s) (t := t) (by rw [h]; simpa using hp)
    rw [Bool.eq_iff_iff, List.isPrefixOf_iff_prefix, List.isPrefixOf_iff_prefix, this]
  unfold looksRos
  rw [key _ (by decide), key _ (by decide), key _ (by decide)]

lemma detectProtocol_rosTopic (n : Str) : detectProtocol (rosTopicPrefix ++ n) = .ros2 := by
  simp [detectProtocol]

/-- The record of a topic before anything is read in it. -/
def blank (t : Str) (p : Protocol) : RpcInfo := ⟨t, [], [], p, .none, .none, .none⟩

lemma ofTopic_eq (t : Str) : ofTopic t = extractRpcInfo (blank t (detectProtocol t)) := rfl

lemma ofTopic_rosTopic (n : Str) :
    ofTopic (rosTopicPrefix ++ n) = (blank (rosTopicPrefix ++ n) .ros2).ofTopicSuffix n := by
  rw [ofTopic_eq, detectProtocol_rosTopic]
  simp [extractRpcInfo, blank, rosTopicPrefix, rosRequestPrefix, rosReplyPrefix]

lemma ofTopic_rosRequest (s : Str) :
    ofTopic (rosRequestPrefix ++ s ++ rosRequestSuffix) =
      (blank (rosRequestPrefix ++ s ++ rosRequestSuffix) .ros2).ofService .request s := by
  have hp : detectProtocol (rosRequestPrefix ++ s ++ rosRequestSuffix) = .ros2 := by
    simp [detectProtocol, List.append_assoc]
  have hpre : rosRequestPrefix.isPrefixOf (rosRequestPrefix ++ s ++ rosRequestSuffix) := by
    rw [List.isPrefixOf_iff_prefix, List.append_assoc]
    exact List.prefix_append _ _
  have hsuf : rosRequestSuffix.isSuffixOf (rosRequestPrefix ++ s ++ rosRequestSuffix) := by
    rw [List.isSuffixOf_iff_suffix]
    exact List.suffix_append _ _
  rw [ofTopic_eq, hp]
  simp only [extractRpcInfo, blank, hpre, hsuf, Bool.and_self, if_true, strip_append]

lemma ofTopic_rosReply (s : Str) :
    ofTopic (rosReplyPrefix ++ s ++ rosReplySuffix) =
      (blank (rosReplyPrefix ++ s ++ rosReplySuffix) .ros2).ofService .reply s := by
  have hp : detectProtocol (rosReplyPrefix ++ s ++ rosReplySuffix) = .ros2 := by
    simp [detectProtocol, List.append_assoc]
  have hnot : rosRequestPrefix.isPrefixOf (rosReplyPrefix ++ s ++ rosReplySuffix) = false := by
    simp [rosRequestPrefix, rosReplyPrefix, List.isPrefixOf]
  have hpre : rosReplyPrefix.isPrefixOf (rosReplyPrefix ++ s ++ rosReplySuffix) := by
    rw [List.isPrefixOf_iff_prefix, List.append_assoc]
    exact List.prefix_append _ _
  have hsuf : rosReplySuffix.isSuffixOf (rosReplyPrefix ++ s ++ rosReplySuffix) := by
    rw [List.isSuffixOf_iff_suffix]
    exact List.suffix_append _ _
  rw [ofTopic_eq, hp]
  simp only [extractRpcInfo, blank, hnot, hpre, hsuf, Bool.false_and, Bool.false_eq_true,
    Bool.and_self, if_true, if_false, strip_append]

lemma detectProtocol_dds {s suffix : Str} (hs : suffix.head? = some '_')
    (h : looksRos s = false) : detectProtocol (s ++ suffix) = .dds := by
  rw [detectProtocol_eq, looksRos_append hs, h]
  rfl

lemma ofTopic_ddsRequest {s : Str} (h : looksRos s = false) :
    ofTopic (ddsRequestPrefix ++ s ++ ddsRequestSuffix) =
      (blank (ddsRequestPrefix ++ s ++ ddsRequestSuffix) .dds).ofService .request s := by
  have hp : detectProtocol (ddsRequestPrefix ++ s ++ ddsRequestSuffix) = .dds :=
    detectProtocol_dds (by decide) h
  have hpre : ddsRequestPrefix.isPrefixOf (ddsRequestPrefix ++ s ++ ddsRequestSuffix) := by
    simp [ddsRequestPrefix]
  have hsuf : ddsRequestSuffix.isSuffixOf (ddsRequestPrefix ++ s ++ ddsRequestSuffix) := by
    rw [List.isSuffixOf_iff_suffix]
    exact List.suffix_append _ _
  rw [ofTopic_eq, hp]
  simp only [extractRpcInfo, blank, hpre, hsuf, Bool.and_self, if_true, strip_append]

lemma ofTopic_ddsReply {s : Str} (h : looksRos s = false) :
    ofTopic (ddsReplyPrefix ++ s ++ ddsReplySuffix) =
      (blank (ddsReplyPrefix ++ s ++ ddsReplySuffix) .dds).ofService .reply s := by
  have hp : detectProtocol (ddsReplyPrefix ++ s ++ ddsReplySuffix) = .dds :=
    detectProtocol_dds (by decide) h
  have hpre : ddsReplyPrefix.isPrefixOf (ddsReplyPrefix ++ s ++ ddsReplySuffix) := by
    simp [ddsReplyPrefix]
  have hnot : ddsRequestSuffix.isSuffixOf (ddsReplyPrefix ++ s ++ ddsReplySuffix) = false := by
    rw [Bool.eq_false_iff, ne_eq, List.isSuffixOf_iff_suffix]
    intro hs
    have hlen : ddsReplySuffix.length ≤ ddsRequestSuffix.length := by decide
    have := List.suffix_of_suffix_length_le (List.suffix_append _ _) hs hlen
    exact absurd this (by decide)
  have hsuf : ddsReplySuffix.isSuffixOf (ddsReplyPrefix ++ s ++ ddsReplySuffix) := by
    rw [List.isSuffixOf_iff_suffix]
    exact List.suffix_append _ _
  rw [ofTopic_eq, hp]
  simp only [extractRpcInfo, blank, hpre, hnot, hsuf, Bool.and_false, Bool.false_eq_true,
    Bool.and_self, if_true, if_false, strip_append]

/-- **Request topics are read back** as requests of their service. -/
theorem ofTopic_requestTopic {p : Protocol} {s t : Str} (ht : requestTopic p s = some t)
    (h : p = .dds → looksRos s = false) : ofTopic t = (blank t p).ofService .request s := by
  cases p with
  | ros2 =>
    cases ht
    exact ofTopic_rosRequest s
  | dds =>
    cases ht
    exact ofTopic_ddsRequest (h rfl)
  | unknown => cases ht

/-- **Reply topics are read back** as replies of their service. -/
theorem ofTopic_replyTopic {p : Protocol} {s t : Str} (ht : replyTopic p s = some t)
    (h : p = .dds → looksRos s = false) : ofTopic t = (blank t p).ofService .reply s := by
  cases p with
  | ros2 =>
    cases ht
    exact ofTopic_rosReply s
  | dds =>
    cases ht
    exact ofTopic_ddsReply (h rfl)
  | unknown => cases ht

/-! ### Parts of actions -/

/-- The suffix of the services of an action. -/
def partSuffix : ActionType → Str
  | .goal => actionGoalSuffix
  | .result => actionResultSuffix
  | .cancel => actionCancelSuffix
  | .feedback => actionFeedbackSuffix
  | .status => actionStatusSuffix
  | .none => []

/-- The types of the three services of an action. -/
def isServicePart : ActionType → Bool
  | .goal | .result | .cancel => true
  | _ => false

lemma isSuffixOf_append_self (a s : Str) : s.isSuffixOf (a ++ s) = true := by
  rw [List.isSuffixOf_iff_suffix]
  exact List.suffix_append a s

lemma isSuffixOf_append_of_not {a s s' : Str} (h1 : s.isSuffixOf s' = false)
    (h2 : s'.isSuffixOf s = false) : s'.isSuffixOf (a ++ s) = false := by
  rw [Bool.eq_false_iff, ne_eq, List.isSuffixOf_iff_suffix] at h1 h2 ⊢
  intro hs
  rcases List.suffix_or_suffix_of_suffix (List.suffix_append a s) hs with h | h
  · exact h1 h
  · exact h2 h

/-- **Services of actions are read back** as parts of their action. -/
theorem actionPart_append (a : Str) {t : ActionType} (ht : isServicePart t) :
    actionPart (a ++ partSuffix t) = some (a, t) := by
  cases t with
  | goal => simp [actionPart, partSuffix, isSuffixOf_append_self, dropEnd_append]
  | result =>
    have h : actionGoalSuffix.isSuffixOf (a ++ actionResultSuffix) = false :=
      isSuffixOf_append_of_not (by decide) (by decide)
    simp [actionPart, partSuffix, h, isSuffixOf_append_self, dropEnd_append]
  | cancel =>
    have h : actionGoalSuffix.isSuffixOf (a ++ actionCancelSuffix) = false :=
      isSuffixOf_append_of_not (by decide) (by decide)
    have h' : actionResultSuffix.isSuffixOf (a ++ actionCancelSuffix) = false :=
      isSuffixOf_append_of_not (by decide) (by decide)
    simp [actionPart, partSuffix, h, h', isSuffixOf_append_self, dropEnd_append]
  | none => cases ht
  | feedback => cases ht
  | status => cases ht

lemma actionPart_eq_none {base : Str} :
    actionPart base = none ↔ ¬ actionGoalSuffix <:+ base ∧ ¬ actionResultSuffix <:+ base ∧
      ¬ actionCancelSuffix <:+ base := by
  unfold actionPart
  by_cases h1 : actionGoalSuffix <:+ base
  · simp [h1]
  · by_cases h2 : actionResultSuffix <:+ base
    · simp [h1, h2]
    · by_cases h3 : actionCancelSuffix <:+ base
      · simp [h1, h2, h3]
      · simp [h1, h2, h3]

end RpcInfo

end DdsEnabler
