import DdsEnabler.Justified

/-!
Where requests, replies and samples come from.

A request has one identifier at the side that sends it and one at the side that receives it, and
neither is given twice. So a reply leads back to the one request that it answers, and from there to
what the users of both sides have asked for.
-/

namespace DdsEnabler

open Exec Runs Provenance RpcUtils RpcInfo

namespace Network

variable {ι : Type} {w : List (NetOp ι)} {N : Network ι}

/-! ### Identifiers -/

lemma sentIds_sublist_usedIds (es : List Event) : (sentIds es).Sublist (usedIds es) := by
  induction es with
  | nil => exact .refl _
  | cons e es ih =>
    rcases h : e.sentId with _ | n
    · rw [sentIds, List.filterMap_cons_none h]
      rcases h' : e.usedId with _ | m
      · rwa [usedIds, List.filterMap_cons_none h']
      · rw [usedIds, List.filterMap_cons_some h']
        exact ih.trans (List.sublist_cons_self _ _)
    · have h' : e.usedId = some n := by
        cases e <;> first | exact h | cases h
      rw [sentIds, List.filterMap_cons_some h, usedIds, List.filterMap_cons_some h']
      exact ih.cons_cons _

section Identifiers

variable (h : Inv (w, N)) (hlt : Within N)

include h hlt

lemma Inv.drawn_range (i : ι) : drawnIds (N i).state.trace =
    List.range' 1 (drawnIds (N i).state.trace).length := by
  have hlt' : 0 + (drawnIds (N i).state.trace).length < 2 ^ 64 := by
    have := hlt i
    omega
  simpa using (countsUp_range (h.sound i).books.counts hlt').1

lemma Inv.nodup_used (i : ι) : (usedIds (N i).state.trace).Nodup := by
  obtain ⟨l, hl, hsub⟩ := (List.sublist_append_left _ _).subperm.trans (h.sound i).books.used
  refine hl.nodup_iff.mp (hsub.nodup ?_)
  have hrange := h.drawn_range hlt i
  change (drawnIds (N i).state.trace).Nodup
  rw [hrange]
  exact List.nodup_range' ..

lemma Inv.used_pos {i : ι} {r : Nat} (hr : r ∈ usedIds (N i).state.trace) : r ≠ 0 := by
  have hdrawn := (h.sound i).books.used.subset (List.mem_append_left _ hr)
  change r ∈ drawnIds (N i).state.trace at hdrawn
  rw [h.drawn_range hlt i, List.mem_range'_1] at hdrawn
  omega

lemma Inv.request_eq {i : ι} {t t' : Str} {json json' : JsonText} {r : Nat}
    (he : .publishedRpc t json r ∈ (N i).state.trace)
    (he' : .publishedRpc t' json' r ∈ (N i).state.trace)
    (hr : (Event.publishedRpc t json r).usedId = some r)
    (hr' : (Event.publishedRpc t' json' r).usedId = some r) : t = t' ∧ json = json' := by
  cases eq_of_key (h.nodup_used hlt i) he he' hr hr'
  exact ⟨rfl, rfl⟩

lemma Inv.not_received {i : ι} {t : Str} {json : JsonText} {r : Nat}
    (he : .publishedRpc t json r ∈ (N i).state.trace)
    (hr : (Event.publishedRpc t json r).usedId = some r) {q : Receipt ι}
    (hq : q ∈ (N i).receipts) : q.number ≠ r := by
  intro hnumber
  have hmem : r ∈ sentIds (N i).state.trace := by
    rw [← (h.sound i).stamped, ← hnumber]
    exact List.mem_map_of_mem hq
  obtain ⟨e, he', hid⟩ := List.mem_filterMap.mp hmem
  have hid' : e.usedId = some r := by
    cases e <;> first | exact hid | cases hid
  have heq := eq_of_key (h.nodup_used hlt i) he he' hr hid'
  subst heq
  cases hid

lemma Inv.receipt_eq {i : ι} {q q' : Receipt ι} (hq : q ∈ (N i).receipts)
    (hq' : q' ∈ (N i).receipts) (hnumber : q.number = q'.number) : q = q' := by
  have hnodup : ((N i).receipts.map (·.number)).Nodup := by
    rw [(h.sound i).stamped]
    exact (sentIds_sublist_usedIds _).nodup (h.nodup_used hlt i)
  exact List.inj_on_of_nodup_map hnodup hq hq' hnumber

lemma Receives.unique {j i i' : ι} {n r r' : Nat} {t t' : Str} {doc doc' : Json}
    (hr : N.Receives j n i r t doc) (hr' : N.Receives j n i' r' t' doc') :
    i = i' ∧ r = r' ∧ t = t' ∧ doc = doc' := by
  cases h.receipt_eq hlt hr.receipt hr'.receipt rfl
  obtain ⟨rfl, hdoc⟩ := h.request_eq hlt hr.published hr'.published (usedId_read hr.request _ _)
    (usedId_read hr'.request _ _)
  cases hdoc
  exact ⟨rfl, rfl, rfl, rfl⟩

end Identifiers

/-! ### Requests and replies of actions -/

/-- What a request of an action comes from. -/
inductive PartRequest (w : List (NetOp ι)) (N : Network ι) (i : ι) (actionName : Str) :
    ActionType → Json → Prop
  | goal {json : JsonText} {u : UUID} {protocol : Protocol} {doc : Json}
      (h : .act i (.draw (.goal actionName json u protocol)) ∈ w)
      (hdoc : createGoalRequestMsg json u = .ok doc) : PartRequest w N i actionName .goal doc
  | result {u : UUID} (h : N.Decided i actionName u (some true)) :
    PartRequest w N i actionName .result (createResultRequestMsg u)
  | cancel (u : UUID) (timestamp : Int) :
    PartRequest w N i actionName .cancel (createCancelRequestMsg u timestamp)

/-- What a reply of an action under the identifier `n` comes from. -/
inductive PartReply (w : List (NetOp ι)) (N : Network ι) (i : ι) (n : Nat) (actionName : Str) :
    ActionType → Json → Prop
  | goal {j : ι} {r : Nat} {doc : Json} {u : UUID} {env : Env} {topic : DdsTopic} {data : Sample}
      (h : N.Receives i n j r topic.topicName doc)
      (hpart : (RpcInfo.ofTopic topic.topicName).IsPart .request .goal)
      (hname : (RpcInfo.ofTopic topic.topicName).actionName = actionName)
      (hu : goalOf doc = .ok u) (hop : .deliver j i r env topic data ∈ w) :
    PartReply w N i n actionName .goal (createGoalReplyMsg
      (env.goalAnswer actionName ((data.message topic).wrap doc) u data.sourceTimestamp) env.now)
  | result {env : Env} {u : UUID} {code : StatusCode} {json : JsonText} {doc : Json}
      (h : .act i (.sendActionResult env actionName u code json) ∈ w)
      (hdoc : createResultReplyMsg code json = .ok doc)
      (hstored : ∃ protocol time,
        .storedRequest actionName u n .result protocol time ∈ (N i).state.trace) :
    PartReply w N i n actionName .result doc
  | cancel {env : Env} {goalIds : List UUID} {cancelCode : CancelCode} {goals : List (UUID × Int)}
      (h : .act i (.sendActionCancelGoalReply env actionName goalIds cancelCode n) ∈ w)
      (hgoals : ∀ g ∈ goals, g.1 ∈ goalIds) :
    PartReply w N i n actionName .cancel (createCancelReplyMsg goals cancelCode)

section Parts

variable {st st' : ServiceType} {ty ty' : ActionType} {p : Protocol} {s t a : Str}

lemma part_of_built (ht : serviceTopic st p s = some t) (hpart : (RpcInfo.ofTopic t).IsPart st' ty)
    (hst : st' ≠ .none) :
    st' = st ∧ RpcInfo.actionPart s = some ((RpcInfo.ofTopic t).actionName, ty) := by
  have hread : (RpcInfo.ofTopic t).serviceType ≠ .none := by rwa [hpart.serviceType]
  refine ⟨hpart.serviceType.symm.trans (ofTopic_built ht hread).1, ?_⟩
  rw [ofTopic_part ht hread hpart.rpcType, hpart.actionType]

variable (ty) in
lemma part_of_request (hty : RpcInfo.isServicePart ty)
    (ht : requestTopic p (partName a ty) = some t)
    (hpart : (RpcInfo.ofTopic t).IsPart .request ty') :
    (RpcInfo.ofTopic t).actionName = a ∧ ty' = ty := by
  have ht' : serviceTopic .request p (partName a ty) = some t := ht
  have hsplit := (part_of_built ht' hpart (by simp)).2
  rw [partName, RpcInfo.actionPart_append a hty] at hsplit
  cases hsplit
  exact ⟨rfl, rfl⟩

variable (ty) in
lemma part_of_reply (hty : RpcInfo.isServicePart ty) (ht : replyTopic p (partName a ty) = some t)
    (hpart : (RpcInfo.ofTopic t).IsPart .reply ty') :
    (RpcInfo.ofTopic t).actionName = a ∧ ty' = ty := by
  have ht' : serviceTopic .reply p (partName a ty) = some t := ht
  have hsplit := (part_of_built ht' hpart (by simp)).2
  rw [partName, RpcInfo.actionPart_append a hty] at hsplit
  cases hsplit
  exact ⟨rfl, rfl⟩

lemma serviceType_requestTopic (ht : requestTopic p s = some t) :
    (RpcInfo.ofTopic t).serviceType ≠ .reply := by
  have ht' : serviceTopic .request p s = some t := ht
  intro hread
  cases hread.symm.trans (ofTopic_built ht' (by simp [hread])).1

lemma serviceType_replyTopic (ht : replyTopic p s = some t) :
    (RpcInfo.ofTopic t).serviceType ≠ .request := by
  have ht' : serviceTopic .reply p s = some t := ht
  intro hread
  cases hread.symm.trans (ofTopic_built ht' (by simp [hread])).1

variable (h : Inv (w, N)) {i : ι} {n r : Nat} {doc : Json}

include h

/-- **Requests of actions.** What goes out on the request topic of a part of an action is what
that part is for. -/
lemma Inv.partRequest (he : .publishedRpc t (.doc doc) r ∈ (N i).state.trace)
    (hpart : (RpcInfo.ofTopic t).IsPart .request ty) :
    PartRequest w N i (RpcInfo.ofTopic t).actionName ty doc := by
  have hcause : Cause w N i (.publishedRpc t (.doc doc) r) := h.justified i _ he
  generalize hevent : Event.publishedRpc t (.doc doc) r = e at hcause
  cases hcause
  case request q topicName json r' hop hmsg ht hfits =>
    cases hevent
    cases q with
    | service serviceName json protocol =>
      have ht' : serviceTopic .request protocol serviceName = some t := ht
      have hsplit := (part_of_built ht' hpart (by simp)).2
      rw [hfits serviceName json protocol rfl] at hsplit
      cases hsplit
    | goal actionName json u protocol =>
      obtain ⟨rfl, rfl⟩ := part_of_request .goal rfl ht hpart
      obtain ⟨doc', hdoc, hjson⟩ := exists_of_map_ok hmsg
      cases hjson
      exact .goal hop hdoc
    | cancel actionName u timestamp protocol =>
      obtain ⟨rfl, rfl⟩ := part_of_request .cancel rfl ht hpart
      cases hmsg
      exact .cancel u timestamp
  case resultRequest ht hdecided =>
    cases hevent
    obtain ⟨rfl, rfl⟩ := part_of_request .result rfl ht hpart
    exact .result hdecided
  case cancelRequest ht =>
    cases hevent
    obtain ⟨rfl, rfl⟩ := part_of_request .cancel rfl ht hpart
    exact .cancel _ 0
  case serviceReply hop ht _ =>
    cases hevent
    exact absurd hpart.serviceType (serviceType_replyTopic ht)
  case cancelReply hop ht _ =>
    cases hevent
    exact absurd hpart.serviceType (serviceType_replyTopic ht)
  case goalReply ht =>
    cases hevent
    exact absurd hpart.serviceType (serviceType_replyTopic ht)
  case resultReply ht _ =>
    cases hevent
    exact absurd hpart.serviceType (serviceType_replyTopic ht)
  all_goals cases hevent
  next hinternal => cases hinternal

lemma Inv.serviceAsked {json : Json} {time : Int}
    (he : .serviceRequestNotification s json n time ∈ (N i).state.trace) :
    ∃ j r asked doc msg, N.Receives i n j r asked doc ∧
      (RpcInfo.ofTopic asked).rpcType = .service ∧ (RpcInfo.ofTopic asked).serviceName = s ∧
      json = Message.wrap msg doc := by
  have hcause : Cause w N i (.serviceRequestNotification s json n time) := h.justified i _ he
  generalize hevent : Event.serviceRequestNotification s json n time = e at hcause
  cases hcause
  case serviceRequest hreceives hservice =>
    cases hevent
    exact ⟨_, _, _, _, _, hreceives, hservice, rfl, rfl⟩
  all_goals cases hevent
  next hinternal => cases hinternal

omit h in
lemma actionPart_of_service (hservice : (RpcInfo.ofTopic t).rpcType = .service) :
    RpcInfo.actionPart (RpcInfo.ofTopic t).serviceName = none := by
  rcases topic_shape t with ⟨p, st, s, ht, hros⟩ | ⟨pre, base, -, -, hinfo⟩ | ⟨-, hinfo⟩
  · rw [ofTopic_serviceTopic ht hros] at hservice ⊢
    rw [RpcInfo.serviceName_ofService]
    unfold RpcInfo.ofService at hservice
    split at hservice
    · cases hservice
    · next hnone => exact hnone
  · rw [hinfo] at hservice
    unfold RpcInfo.ofTopicSuffix at hservice
    repeat' split at hservice
    all_goals cases hservice
  · rw [hinfo] at hservice
    cases hservice

/-- **Replies of actions.** What goes out on the reply topic of a part of an action answers a
request for that part. -/
lemma Inv.partReply (he : .publishedRpc t (.doc doc) n ∈ (N i).state.trace)
    (hpart : (RpcInfo.ofTopic t).IsPart .reply ty) :
    PartReply w N i n (RpcInfo.ofTopic t).actionName ty doc := by
  have hcause : Cause w N i (.publishedRpc t (.doc doc) n) := h.justified i _ he
  generalize hevent : Event.publishedRpc t (.doc doc) n = e at hcause
  cases hcause
  case request hop hmsg ht hfits =>
    cases hevent
    exact absurd hpart.serviceType (serviceType_requestTopic ht)
  case resultRequest ht hdecided =>
    cases hevent
    exact absurd hpart.serviceType (serviceType_requestTopic ht)
  case cancelRequest ht =>
    cases hevent
    exact absurd hpart.serviceType (serviceType_requestTopic ht)
  case serviceReply serviceName _ _ _ protocol hop ht hasked =>
    cases hevent
    obtain ⟨asked, time, he⟩ := hasked
    obtain ⟨j, r, t', doc', msg, -, hservice, rfl, -⟩ := h.serviceAsked he
    have ht' : serviceTopic .reply protocol (RpcInfo.ofTopic t').serviceName = some t := ht
    have hsplit := (part_of_built ht' hpart (by simp)).2
    rw [actionPart_of_service hservice] at hsplit
    cases hsplit
  case cancelReply hop ht hjson =>
    cases hevent
    obtain ⟨rfl, rfl⟩ := part_of_reply .cancel rfl ht hpart
    obtain ⟨goals, hgoals, hjson⟩ := hjson
    cases hjson
    exact .cancel hop hgoals
  case goalReply hreceives hasked hu hop htopic ht =>
    cases hevent
    subst htopic
    obtain ⟨hname, rfl⟩ := part_of_reply .goal rfl ht hpart
    rw [hname]
    exact .goal hreceives hasked rfl hu hop
  case resultReply hop hdoc ht hstored =>
    cases hevent
    obtain ⟨rfl, rfl⟩ := part_of_reply .result rfl ht hpart
    exact .result hop hdoc hstored
  all_goals cases hevent
  next hinternal => cases hinternal

end Parts

/-! ### Goals -/

/-- The client `i` has sent the goal, and the server `j` has received it and given its answer. -/
structure Decision (w : List (NetOp ι)) (N : Network ι) (i j : ι) (actionName : Str) (u : UUID)
    (accepted : Bool) : Prop where
  sent : ∃ json protocol, .act i (.draw (.goal actionName json u protocol)) ∈ w
  answered : ∃ n r env topic data doc, N.Receives j n i r topic.topicName doc ∧
    goalOf doc = .ok u ∧ .deliver i j r env topic data ∈ w ∧
    env.goalAnswer actionName ((data.message topic).wrap doc) u data.sourceTimestamp = accepted

section Goals

variable (h : Inv (w, N)) (hlt : Within N) {i : ι} {r : Nat} {t actionName : Str} {doc : Json}
  {u : UUID}

include h

lemma Inv.goalSent (he : .publishedRpc t (.doc doc) r ∈ (N i).state.trace)
    (hpart : (RpcInfo.ofTopic t).IsPart .request .goal) (hu : goalOf doc = .ok u) :
    ∃ json protocol, createGoalRequestMsg json u = .ok doc ∧
      .act i (.draw (.goal (RpcInfo.ofTopic t).actionName json u protocol)) ∈ w := by
  cases h.partRequest he hpart with
  | @goal json u' protocol _ hop hdoc =>
    obtain rfl : u' = u := Except.ok.inj ((goalOf_createGoalRequest hdoc).symm.trans hu)
    exact ⟨json, protocol, hdoc, hop⟩

include hlt

lemma Inv.goal_of_recorded {ty : ActionType} (hrec : N.Recorded i u r ty)
    (he : .publishedRpc t (.doc doc) r ∈ (N i).state.trace)
    (hread : (RpcInfo.ofTopic t).serviceType = .request) : goalOf doc = .ok u := by
  have hused := usedId_read hread (.doc doc) r
  obtain ⟨a, p, time, hstored⟩ := hrec (h.used_pos hlt (List.mem_filterMap.mpr ⟨_, he, hused⟩))
  have hcause : Cause w N i (.storedRequest a u r ty p time) := h.justified i _ hstored
  generalize hevent : Event.storedRequest a u r ty p time = e at hcause
  cases hcause
  case sentRecord hpub hty ht hu _ =>
    cases hevent
    obtain ⟨-, hdoc⟩ := h.request_eq hlt he hpub hused (usedId_request ht _ _)
    cases hdoc
    exact hu
  case receivedRecord hreceives hpart hu =>
    cases hevent
    exact absurd rfl (h.not_received hlt he hused hreceives.receipt)
  all_goals cases hevent
  next hinternal => cases hinternal

/-- **Decisions are genuine.** What a client takes for the decision on its goal is the answer of a
server to that very goal. -/
lemma Inv.decision {accepted : Option Bool} (hd : N.Decided i actionName u accepted) :
    ∃ j b, accepted = some b ∧ Decision w N i j actionName u b := by
  obtain ⟨j, n, r, topicName, reply, msg, hans, hpart, rfl, hread, hrec⟩ := hd
  obtain ⟨asked, request, hreceives⟩ := (h.sound j).received _ hans.receipt
  generalize hname : (RpcInfo.ofTopic topicName).actionName = name
  have hreply := h.partReply hans.published hpart
  rw [hname] at hreply
  cases hreply with
  | @goal i' r' doc' u' env topic data hreceives' hasked hname' hu hop =>
    obtain ⟨rfl, rfl, rfl, rfl⟩ := hreceives.unique h hlt hreceives'
    have hgoal := h.goal_of_recorded hlt hrec hreceives.published hasked.serviceType
    obtain rfl : u' = u := Except.ok.inj (hu.symm.trans hgoal)
    rw [catchJson_ok (acceptedOf_wrap msg _ _)] at hread
    obtain ⟨json, protocol, -, hsent⟩ := h.goalSent hreceives.published hasked hu
    rw [hname'] at hsent
    exact ⟨j, _, (Except.ok.inj hread).symm, ⟨json, protocol, hsent⟩,
      ⟨n, r, env, topic, data, request, hreceives, hu, hop, rfl⟩⟩

lemma Inv.asked_of_recorded {a : Str} {j : ι} {n : Nat} {ty : ActionType} {p : Protocol}
    {time : Int} (hstored : .storedRequest a u n ty p time ∈ (N j).state.trace)
    (hreceives : N.Receives j n i r t doc) :
    (RpcInfo.ofTopic t).IsPart .request ty ∧ (RpcInfo.ofTopic t).actionName = a ∧
      goalOf doc = .ok u := by
  have hcause : Cause w N j (.storedRequest a u n ty p time) := h.justified j _ hstored
  generalize hevent : Event.storedRequest a u n ty p time = e at hcause
  cases hcause
  case sentRecord hpub hty ht hu _ =>
    cases hevent
    exact absurd rfl (h.not_received hlt hpub (usedId_request ht _ _) hreceives.receipt)
  case receivedRecord hreceives' hpart hu =>
    cases hevent
    obtain ⟨rfl, rfl, rfl, rfl⟩ := hreceives.unique h hlt hreceives'
    exact ⟨hpart, rfl, hu⟩
  all_goals cases hevent
  next hinternal => cases hinternal

end Goals

/-! ### Services -/

section Services

variable (h : Inv (w, N)) {i : ι} {n r : Nat} {t s : Str} {doc : Json}

include h

lemma Inv.serviceSent (he : .publishedRpc t (.doc doc) r ∈ (N i).state.trace)
    (hread : (RpcInfo.ofTopic t).serviceType = .request)
    (hservice : (RpcInfo.ofTopic t).rpcType = .service)
    (hlast : (RpcInfo.ofTopic t).serviceName.getLast? ≠ some '_') :
    ∃ protocol, .act i (.draw (.service (RpcInfo.ofTopic t).serviceName (.doc doc) protocol)) ∈ w
      := by
  have hplain := actionPart_of_service hservice
  have hbuilt : ∀ {p : Protocol} {s : Str}, requestTopic p s = some t →
      (RpcInfo.ofTopic t).serviceName = s := by
    intro p s ht
    have ht' : serviceTopic .request p s = some t := ht
    exact ofTopic_named ht' (by simp [hread]) hlast
  have hpart : ∀ {p : Protocol} {a : Str} (ty : ActionType), RpcInfo.isServicePart ty →
      requestTopic p (partName a ty) ≠ some t := by
    intro p a ty hty ht
    rw [hbuilt ht, partName, RpcInfo.actionPart_append a hty] at hplain
    cases hplain
  have hcause : Cause w N i (.publishedRpc t (.doc doc) r) := h.justified i _ he
  generalize hevent : Event.publishedRpc t (.doc doc) r = e at hcause
  cases hcause
  case request q _ _ _ hop hmsg ht _ =>
    cases hevent
    cases q with
    | service serviceName json protocol =>
      obtain rfl : (RpcInfo.ofTopic t).serviceName = serviceName := hbuilt ht
      cases hmsg
      exact ⟨protocol, hop⟩
    | goal actionName json u protocol => exact absurd ht (hpart .goal rfl)
    | cancel actionName u timestamp protocol => exact absurd ht (hpart .cancel rfl)
  case resultRequest ht _ =>
    cases hevent
    exact absurd ht (hpart .result rfl)
  case cancelRequest ht =>
    cases hevent
    exact absurd ht (hpart .cancel rfl)
  case serviceReply hop ht _ =>
    cases hevent
    exact absurd hread (serviceType_replyTopic ht)
  case cancelReply hop ht _ =>
    cases hevent
    exact absurd hread (serviceType_replyTopic ht)
  case goalReply ht =>
    cases hevent
    exact absurd hread (serviceType_replyTopic ht)
  case resultReply ht _ =>
    cases hevent
    exact absurd hread (serviceType_replyTopic ht)
  all_goals cases hevent
  next hinternal => cases hinternal

lemma Inv.serviceAnswered (he : .publishedRpc t (.doc doc) n ∈ (N i).state.trace)
    (hread : (RpcInfo.ofTopic t).serviceType = .reply)
    (hservice : (RpcInfo.ofTopic t).rpcType = .service)
    (hlast : (RpcInfo.ofTopic t).serviceName.getLast? ≠ some '_') :
    ∃ env asked time,
      .act i (.sendServiceReply env (RpcInfo.ofTopic t).serviceName (.doc doc) n) ∈ w ∧
        .serviceRequestNotification (RpcInfo.ofTopic t).serviceName asked n time ∈
          (N i).state.trace := by
  have hplain := actionPart_of_service hservice
  have hbuilt : ∀ {p : Protocol} {s : Str}, replyTopic p s = some t →
      (RpcInfo.ofTopic t).serviceName = s := by
    intro p s ht
    have ht' : serviceTopic .reply p s = some t := ht
    exact ofTopic_named ht' (by simp [hread]) hlast
  have hpart : ∀ {p : Protocol} {a : Str} (ty : ActionType), RpcInfo.isServicePart ty →
      replyTopic p (partName a ty) ≠ some t := by
    intro p a ty hty ht
    rw [hbuilt ht, partName, RpcInfo.actionPart_append a hty] at hplain
    cases hplain
  have hcause : Cause w N i (.publishedRpc t (.doc doc) n) := h.justified i _ he
  generalize hevent : Event.publishedRpc t (.doc doc) n = e at hcause
  cases hcause
  case request ht _ =>
    cases hevent
    exact absurd hread (serviceType_requestTopic ht)
  case resultRequest ht _ =>
    cases hevent
    exact absurd hread (serviceType_requestTopic ht)
  case cancelRequest ht =>
    cases hevent
    exact absurd hread (serviceType_requestTopic ht)
  case serviceReply env serviceName _ _ _ _ hop ht hasked =>
    cases hevent
    obtain rfl : (RpcInfo.ofTopic t).serviceName = serviceName := hbuilt ht
    obtain ⟨asked, time, hasked⟩ := hasked
    exact ⟨env, asked, time, hop, hasked⟩
  case cancelReply hop ht _ =>
    cases hevent
    exact absurd ht (hpart .cancel rfl)
  case goalReply ht =>
    cases hevent
    exact absurd ht (hpart .goal rfl)
  case resultReply ht _ =>
    cases hevent
    exact absurd ht (hpart .result rfl)
  all_goals cases hevent
  next hinternal => cases hinternal

end Services

/-! ### Samples of actions -/

section Samples

variable {ty ty' : ActionType} {p : Protocol} {t a : Str}

lemma ofTopicSuffix_part {base : Str} {i : RpcInfo}
    (h : (i.ofTopicSuffix base).rpcType ≠ i.rpcType) :
    base = partName (i.ofTopicSuffix base).actionName (i.ofTopicSuffix base).actionType ∧
      ((i.ofTopicSuffix base).actionType = .feedback ∨
        (i.ofTopicSuffix base).actionType = .status) := by
  have hcut : ∀ suffix : Str, ('/' :: suffix).isSuffixOf base →
      base = RpcInfo.dropEnd base suffix.length ++ suffix := by
    intro suffix hsuffix
    obtain ⟨v, rfl⟩ := List.isSuffixOf_iff_suffix.mp hsuffix
    rw [show v ++ '/' :: suffix = v ++ ['/'] ++ suffix by simp, RpcInfo.dropEnd_append]
  unfold RpcInfo.ofTopicSuffix at h ⊢
  by_cases hf : ('/' :: actionFeedbackSuffix).isSuffixOf base
  · rw [if_pos hf]
    exact ⟨hcut _ hf, .inl rfl⟩
  · rw [if_neg hf] at h ⊢
    by_cases hs : ('/' :: actionStatusSuffix).isSuffixOf base
    · rw [if_pos hs]
      exact ⟨hcut _ hs, .inr rfl⟩
    · rw [if_neg hs] at h
      exact absurd rfl h

lemma topic_of_part (hpart : (RpcInfo.ofTopic t).IsPart .none ty) :
    ∃ pre ∈ [rosTopicPrefix, rosRequestPrefix, rosReplyPrefix],
      t = pre ++ partName (RpcInfo.ofTopic t).actionName ty ∧ (ty = .feedback ∨ ty = .status) := by
  rcases topic_shape t with ⟨p, st, s, ht, hros⟩ | ⟨pre, base, hpre, ht, hinfo⟩ | ⟨-, hinfo⟩
  · have hst := hpart.serviceType
    rw [ofTopic_serviceTopic ht hros, RpcInfo.serviceType_ofService] at hst
    exact absurd hst (serviceTopic_ne_none ht)
  · have hrpc := hpart.rpcType
    rw [hinfo] at hrpc
    have hread : ((blank t .ros2).ofTopicSuffix base).rpcType ≠ (blank t .ros2).rpcType := by
      rw [hrpc]
      simp [blank]
    obtain ⟨hbase, htype⟩ := ofTopicSuffix_part hread
    rw [← hinfo] at hbase htype
    rw [hpart.actionType] at hbase htype
    exact ⟨pre, hpre, hbase ▸ ht, htype⟩
  · have hrpc := hpart.rpcType
    rw [hinfo] at hrpc
    cases hrpc

lemma topic_part_eq {pre : Str} (hpre : topicPrefix p = some pre)
    (hros : p = .dds → RpcInfo.looksRos a = false) (hty : ty = .feedback ∨ ty = .status)
    (hpart : (RpcInfo.ofTopic (pre ++ partName a ty)).IsPart .none ty') :
    (RpcInfo.ofTopic (pre ++ partName a ty)).actionName = a ∧ ty' = ty := by
  obtain ⟨pre', hpre', ht, hty'⟩ := topic_of_part hpart
  generalize (RpcInfo.ofTopic (pre ++ partName a ty)).actionName = b at ht ⊢
  have hlast : ∀ (pre a : Str) {ty : ActionType}, ty = .feedback ∨ ty = .status →
      (pre ++ partName a ty).getLast? = (partSuffix ty).getLast? := by
    intro pre a ty hty
    refine getLast?_of_suffix ((List.suffix_append a _).trans (List.suffix_append pre _)) ?_
    rcases hty with rfl | rfl <;> decide
  obtain rfl : ty' = ty := by
    have hends : (partSuffix ty).getLast? = (partSuffix ty').getLast? := by
      rw [← hlast pre a hty, ht, hlast pre' b hty']
    rcases hty with rfl | rfl <;> rcases hty' with rfl | rfl <;> first | rfl | cases hends
  refine ⟨?_, rfl⟩
  have hsame : pre ++ a = pre' ++ b := by
    simpa only [partName, ← List.append_assoc, List.append_cancel_right_eq] using ht
  cases p with
  | ros2 =>
    cases hpre
    have hlen : rosTopicPrefix.length = pre'.length := by
      simp only [List.mem_cons, List.not_mem_nil, or_false] at hpre'
      rcases hpre' with rfl | rfl | rfl <;> rfl
    exact (List.append_inj hsame hlen).2.symm
  | dds =>
    cases hpre
    have hlooks : RpcInfo.looksRos a = true := by
      change a = pre' ++ b at hsame
      rw [hsame]
      simp only [List.mem_cons, List.not_mem_nil, or_false] at hpre'
      rcases hpre' with rfl | rfl | rfl <;> simp [RpcInfo.looksRos]
    rw [hros rfl] at hlooks
    cases hlooks
  | unknown => cases hpre

/-- What a sample of an action comes from. -/
inductive PartSample (w : List (NetOp ι)) (i : ι) (actionName : Str) : ActionType → Json → Prop
  | feedback {env : Env} {typeName : Str} {json : JsonText} {u : UUID} {protocol : Protocol}
      {doc : Json}
      (h : .act i (.publishSample env typeName (.feedback actionName json u protocol)) ∈ w)
      (hdoc : createFeedbackMsg json u = .ok doc) : PartSample w i actionName .feedback doc
  | status {env : Env} {typeName : Str} {u : UUID} {code : StatusCode} {stamp : Int}
      {protocol : Protocol}
      (h : .act i (.publishSample env typeName (.status actionName u code stamp protocol)) ∈ w)
      (hcode : code.Valid) :
    PartSample w i actionName .status (createStatusMsg u code stamp)

lemma Inv.partSample (h : Inv (w, N)) {i : ι} {doc : Json}
    (he : .published t (.doc doc) ∈ (N i).state.trace)
    (hpart : (RpcInfo.ofTopic t).IsPart .none ty) :
    PartSample w i (RpcInfo.ofTopic t).actionName ty doc := by
  have hcause : Cause w N i (.published t (.doc doc)) := h.justified i _ he
  generalize hevent : Event.published t (.doc doc) = e at hcause
  cases hcause
  case sample q json hop hmsg ht hfits =>
    cases hevent
    cases q with
    | topic topicName json =>
      cases ht
      cases hfits.symm.trans hpart.rpcType
    | feedback actionName json u protocol =>
      obtain ⟨pre, hpre, rfl⟩ := Option.map_eq_some_iff.mp ht
      have hsame :
          pre ++ actionName ++ actionFeedbackSuffix = pre ++ partName actionName .feedback :=
        List.append_assoc ..
      rw [hsame] at hpart ⊢
      obtain ⟨hname, rfl⟩ := topic_part_eq hpre hfits (.inl rfl) hpart
      obtain ⟨doc', hdoc, hjson⟩ := exists_of_map_ok hmsg
      cases hjson
      rw [hname]
      exact .feedback hop hdoc
    | status actionName u code stamp protocol =>
      obtain ⟨pre, hpre, rfl⟩ := Option.map_eq_some_iff.mp ht
      have hsame : pre ++ actionName ++ actionStatusSuffix = pre ++ partName actionName .status :=
        List.append_assoc ..
      rw [hsame] at hpart ⊢
      obtain ⟨hname, rfl⟩ := topic_part_eq hpre hfits.2 (.inr rfl) hpart
      cases hmsg
      rw [hname]
      exact .status hop hfits.1
  all_goals cases hevent
  next hinternal => cases hinternal

end Samples

end Network

end DdsEnabler
