import DdsEnabler.Causes

/-!
Every event of a network has its cause.

A step adds events to one party, whose causes are in the step itself, in what the party has kept,
or in what it receives. What a party keeps is tied to its trace: the entries of goals, the
identifiers that are drawn and used, the receipts of requests, and the results that wait to be
asked for.
-/

namespace DdsEnabler

open Exec Runs Provenance RpcUtils

/-! ### Entries of goals -/

section Entries

variable {u : UUID} {i : Option ActionRequestInfo} {j : ActionRequestInfo} {e : Event}

lemma actionName_onEntry {i : ActionRequestInfo} (h : e.onEntry u (some i) = some j) :
    j.actionName = i.actionName := by
  have hset : ∀ n ty, (i.setRequest n ty).actionName = i.actionName := by
    intro n ty
    cases ty <;> rfl
  have hresult : ∀ result, (i.setResult result).2.actionName = i.actionName := by
    intro result
    unfold ActionRequestInfo.setResult
    split <;> rfl
  cases e with
  | storedRequest a v n ty p t =>
    simp only [Event.onEntry] at h
    split at h
    · simp only [Handler.storeEntry] at h
      split at h
      · cases h
        rfl
      · cases h
        exact hset n ty
    · cases h
      rfl
  | resultSet v result =>
    simp only [Event.onEntry] at h
    split at h
    · cases h
      exact hresult result
    · cases h
      rfl
  | erasedAction v reason =>
    simp only [Event.onEntry, Option.bind_some] at h
    split at h
    · unfold Handler.eraseFlag at h
      split at h
      · cases h
      · cases h
        cases reason <;> rfl
    · cases h
      rfl
  | _ =>
    cases h
    rfl

lemma record_onEntry {ty : ActionType} {id : Nat} (h : e.onEntry u i = some j)
    (hj : j.getRequest ty = .ok id) (hid : id ≠ 0) :
    (∃ i', i = some i' ∧ i'.actionName = j.actionName ∧ i'.getRequest ty = .ok id) ∨
      ∃ p t, e = .storedRequest j.actionName u id ty p t := by
  rcases Event.onEntry_request h hj hid with ⟨i', rfl, hreq⟩ | ⟨a, p, t, rfl⟩
  · exact .inl ⟨i', rfl, (actionName_onEntry h).symm, hreq⟩
  · simp only [Event.onEntry, if_true] at h
    rcases i with _ | i'
    · simp only [Handler.storeEntry] at h
      split at h
      · cases h
      · cases h
        cases ty <;> exact .inr ⟨p, t, rfl⟩
    · simp only [Handler.storeEntry] at h
      split at h
      · cases h
        exact .inl ⟨_, rfl, rfl, hj⟩
      · next hnot =>
        have hname : i'.actionName = a := by
          by_contra hne
          exact hnot (.inl hne)
        cases h
        subst hname
        cases ty <;> exact .inr ⟨p, t, rfl⟩

lemma record_of_replay {es : List Event} {ty : ActionType} {id : Nat}
    (h : replay u es i = some j) (hj : j.getRequest ty = .ok id) (hid : id ≠ 0) :
    (∃ i', i = some i' ∧ i'.actionName = j.actionName ∧ i'.getRequest ty = .ok id) ∨
      ∃ p t, .storedRequest j.actionName u id ty p t ∈ es := by
  induction es generalizing i with
  | nil => exact .inl ⟨j, h, rfl, hj⟩
  | cons e es ih =>
    rw [replay_cons] at h
    rcases ih h with ⟨k, hk, hname, hreq⟩ | ⟨p, t, he⟩
    · rcases record_onEntry hk hreq hid with ⟨i', hi', hname', hreq'⟩ | ⟨p, t, rfl⟩
      · exact .inl ⟨i', hi', hname'.trans hname, hreq'⟩
      · exact .inr ⟨p, t, hname ▸ List.mem_cons_self⟩
    · exact .inr ⟨p, t, List.mem_cons_of_mem _ he⟩

lemma result_onEntry (h : e.onEntry u i = some j) (hj : j.result.isEmpty = false)
    (he : ∀ v r, e ≠ .resultSet v r) :
    ∃ i', i = some i' ∧ i'.actionName = j.actionName ∧ i'.result = j.result := by
  rcases i with _ | i'
  · cases e with
    | storedRequest a v n ty p t =>
      simp only [Event.onEntry] at h
      split at h
      · simp only [Handler.storeEntry] at h
        split at h
        · cases h
        · cases h
          cases ty <;> cases hj
      · cases h
    | resultSet v r => exact absurd rfl (he v r)
    | erasedAction v reason =>
      simp only [Event.onEntry, Option.bind_none] at h
      split at h <;> cases h
    | _ => cases h
  · refine ⟨i', rfl, (actionName_onEntry h).symm, ?_⟩
    cases e with
    | storedRequest a v n ty p t =>
      simp only [Event.onEntry] at h
      split at h
      · simp only [Handler.storeEntry] at h
        split at h
        · cases h
          rfl
        · cases h
          cases ty <;> rfl
      · cases h
        rfl
    | resultSet v r => exact absurd rfl (he v r)
    | erasedAction v reason =>
      simp only [Event.onEntry, Option.bind_some] at h
      split at h
      · unfold Handler.eraseFlag at h
        split at h
        · cases h
        · cases h
          cases reason <;> rfl
      · cases h
        rfl
    | _ =>
      cases h
      rfl

lemma result_of_replay {es : List Event} (h : replay u es i = some j)
    (hj : j.result.isEmpty = false) (hes : ∀ e ∈ es, ∀ v r, e ≠ .resultSet v r) :
    ∃ i', i = some i' ∧ i'.actionName = j.actionName ∧ i'.result = j.result := by
  induction es generalizing i with
  | nil => exact ⟨j, h, rfl, rfl⟩
  | cons e es ih =>
    rw [replay_cons] at h
    obtain ⟨k, hk, hname, hresult⟩ := ih h fun e' he' => hes e' (List.mem_cons_of_mem _ he')
    obtain ⟨i', hi', hname', hresult'⟩ :=
      result_onEntry hk (hresult ▸ hj) (hes e List.mem_cons_self)
    exact ⟨i', hi', hname'.trans hname, hresult'.trans hresult⟩

end Entries

/-! ### What a party keeps -/

/-- The trace of a party tells its counter and its map of goals, and the identifiers of the
requests it is about to publish are drawn and not used. -/
structure Party.Books {ι : Type} (p : Party ι) : Prop where
  counts : CountsUp 0 (drawnIds p.state.trace) p.state.handler.requestsId
  entry : ∀ u, p.state.handler.entry u = replay u p.state.trace none
  used : (usedIds p.state.trace ++ p.drawn.map (·.requestId)).Subperm (drawnIds p.state.trace)

lemma effect_log {e : Event} (he : e.isPlain) (s : State) : Effect [e] s (s.log [e]) where
  trace := rfl
  entry u := by cases e <;> first | rfl | cases he
  counts := by cases e <;> first | rfl | cases he
  participant := rfl

lemma usedIds_publishedRpc (topicName : Str) (json : JsonText) (id : Nat) :
    (usedIds [.publishedRpc topicName json id]).Sublist [id] := by
  by_cases h : rosRequestSuffix.isSuffixOf topicName
  · have hused : (Event.publishedRpc topicName json id).usedId = some id := if_pos h
    rw [usedIds, List.filterMap_cons_some hused]
    exact .refl _
  · have hused : (Event.publishedRpc topicName json id).usedId = none := if_neg h
    rw [usedIds, List.filterMap_cons_none hused]
    exact List.nil_sublist _

lemma storeGoal_effect (env : Env) (actionName : Str) (u : UUID) (id : Nat) (protocol : Protocol)
    (s : State) : ∃ e, Effect [e] s (after (storeGoal env actionName u id protocol) s) ∧
      (e = .storedRequest actionName u id .goal protocol env.now ∨
        e = .erasedAction u .forced) := by
  unfold storeGoal
  obtain ⟨new, heff, -⟩ := effect_store env actionName u id .goal protocol s
  rcases hb : (s.handler.storeActionRequest actionName u id .goal protocol env.now).1
  · rw [after_bind_ok (storeActionRequest_run_false s env hb)]
    exact ⟨_, (step_erase (o := none) u .forced s).toEffect, .inr rfl⟩
  · rw [after_ok (storeActionRequest_run_true s env hb)] at heff
    rw [after_bind_ok (storeActionRequest_run_true s env hb)]
    obtain rfl := List.append_cancel_left heff.trace
    exact ⟨_, heff, .inl rfl⟩

lemma publishSample_cases (env : Env) (topicName typeName : Str) (json : JsonText) (s : State) :
    after (publishSample env topicName typeName json) s = s ∨
      after (publishSample env topicName typeName json) s = s.log [.published topicName json] := by
  unfold publishSample
  rw [after_bind_ok (readHandler_run s _)]
  split
  · exact .inr rfl
  · exact .inl rfl

lemma replay_discovery {es : List Event} (h : ∀ e ∈ es, e.isDiscovery) (u : UUID)
    (i : Option ActionRequestInfo) : replay u es i = i := by
  induction es with
  | nil => rfl
  | cons e es ih =>
    have he : e.onEntry u i = i := by
      have := h e List.mem_cons_self
      cases e <;> first | rfl | cases this
    rw [replay_cons, he]
    exact ih fun e' he' => h e' (List.mem_cons_of_mem _ he')

lemma goalOf_createGoalRequest {json : JsonText} {u : UUID} {doc : Json}
    (h : createGoalRequestMsg json u = .ok doc) : goalOf doc = .ok u := by
  rcases json with v | v
  · cases h
    exact jsonToUuid_uuidJson u
  · cases h

lemma exists_of_map_ok {ε α β : Type} {f : α → β} {x : Except ε α} {b : β} (h : x.map f = .ok b) :
    ∃ a, x = .ok a ∧ f a = b := by
  rcases x with e | a
  · cases h
  · cases h
    exact ⟨a, rfl, rfl⟩

namespace Party.Books

variable {ι : Type} {p q : Party ι} {new : List Event}

lemma effect (h : p.Books) (heff : Effect new p.state q.state)
    (hused : (usedIds p.state.trace ++ usedIds new ++ q.drawn.map (·.requestId)).Subperm
      (drawnIds p.state.trace ++ drawnIds new)) : q.Books where
  counts := by
    rw [heff.trace, drawnIds_append]
    exact h.counts.append heff.counts
  entry u := by rw [heff.entry, heff.trace, replay_append, h.entry]
  used := by
    rw [heff.trace, drawnIds_append, usedIds_append]
    exact hused

lemma spends {o : Option Nat} (h : p.Books) (hq : q.drawn = p.drawn)
    (hev : Evolves o p.state q.state) (hspends : Spends p.state q.state) : q.Books := by
  obtain ⟨new, hstep⟩ := hev
  obtain ⟨es, htrace, hes⟩ := hspends
  obtain rfl : new = es := List.append_cancel_left (hstep.trace.symm.trans htrace)
  refine h.effect hstep.toEffect ?_
  rw [hq]
  have hperm : (usedIds p.state.trace ++ usedIds new ++ p.drawn.map (·.requestId)).Perm
      (usedIds p.state.trace ++ p.drawn.map (·.requestId) ++ usedIds new) := by
    rw [List.append_assoc, List.append_assoc]
    exact List.perm_append_comm.append_left _
  exact hperm.subperm.trans (h.used.append hes.subperm)

lemma plain (h : p.Books) (hq : q.drawn = p.drawn) (heff : Effect new p.state q.state)
    (hdrawn : drawnIds new = []) (hused : usedIds new = []) : q.Books :=
  h.effect heff (by rw [hdrawn, hused, hq, List.append_nil, List.append_nil]; exact h.used)

lemma unstamped (h : p.Books)
    (hlt : (drawnIds p.state.trace).length < 2 ^ 64) :
    .sentSequenceNumber p.state.handler.nextRequestId.1 ∉ p.state.trace := by
  intro hmem
  have hused : p.state.handler.nextRequestId.1 ∈ usedIds p.state.trace :=
    List.mem_filterMap.mpr ⟨_, hmem, rfl⟩
  have hdrawn := h.used.subset (List.mem_append_left _ hused)
  obtain ⟨hrange, hcount⟩ := countsUp_range h.counts (by omega)
  rw [hrange, List.mem_range'_1, Handler.nextRequestId, hcount] at hdrawn
  simp only at hdrawn
  omega

end Party.Books

lemma Party.trace_act {ι : Type} (p : Party ι) (op : PartyOp) :
    ∃ es, (p.act op).state.trace = p.state.trace ++ es := by
  have hsame : ∃ es, p.state.trace = p.state.trace ++ es := ⟨[], (List.append_nil _).symm⟩
  cases op with
  | draw request =>
    simp only [act, drawRequest]
    split
    · exact ⟨_, rfl⟩
    · exact hsame
  | publishRpc env k =>
    simp only [act, publishDrawn]
    split
    · exact hsame
    · next r _ =>
      obtain ⟨new, hstep⟩ := keeps_publishRpc (o := none) env r.topicName r.json r.requestId p.state
      exact ⟨new, hstep.trace⟩
  | storeGoal env k =>
    simp only [act, storeSent]
    split
    · exact hsame
    · next r _ =>
      split
      · next actionName _ goalId protocol _ =>
        obtain ⟨e, heff, -⟩ := storeGoal_effect env actionName goalId r.requestId protocol p.state
        exact ⟨_, heff.trace⟩
      · exact hsame
  | sendServiceReply env serviceName json requestId =>
    obtain ⟨new, hstep⟩ :=
      keeps_sendServiceReply (o := none) env serviceName json requestId p.state
    exact ⟨new, hstep.trace⟩
  | sendActionCancelGoalReply env actionName goalIds cancelCode requestId =>
    obtain ⟨new, hstep⟩ := keeps_sendServiceReply (o := none) env
      (actionName ++ actionCancelSuffix)
      (.doc (createCancelReplyMsg (p.state.handler.cancellingGoals actionName goalIds) cancelCode))
      requestId p.state
    exact ⟨new, hstep.trace⟩
  | sendActionResult env actionName goalId statusCode json =>
    obtain ⟨o, new, hstep⟩ := RequestSystem.evolves_sendActionResult env actionName goalId
      statusCode json p.state
    exact ⟨new, hstep.trace⟩
  | publishSample env typeName sample =>
    simp only [act, publishTopic]
    split
    · next topicName json _ _ =>
      rcases publishSample_cases env topicName typeName json p.state with hrun | hrun
      · rw [hrun]
        exact hsame
      · rw [hrun]
        exact ⟨_, rfl⟩
    · exact hsame
  | others participant schemas notices => exact ⟨notices, rfl⟩

namespace Network

variable {ι : Type}

/-- The party has been asked to send the request. -/
structure DrawnBy (w : List (NetOp ι)) (i : ι) (q : Outgoing) : Prop where
  asked : .act i (.draw q.request) ∈ w
  message : q.request.message = .ok q.json
  topic : requestTopic q.request.protocol q.request.serviceName = some q.topicName
  fits : ∀ serviceName json protocol, q.request = .service serviceName json protocol →
    RpcInfo.actionPart serviceName = none

/-- The result is one that the user of the party has supplied. -/
def Supplied (w : List (NetOp ι)) (i : ι) (actionName : Str) (u : UUID) (result : JsonText) :
    Prop :=
  ∃ env code json reply, .act i (.sendActionResult env actionName u code json) ∈ w ∧
    createResultReplyMsg code json = .ok reply ∧ result = .doc reply

/-- The results that wait to be asked for are the user's. -/
def Results (w : List (NetOp ι)) (i : ι) (s : State) : Prop :=
  ∀ u j, s.handler.entry u = some j → j.result.isEmpty = false →
    Supplied w i j.actionName u j.result

/-- What a party keeps is accounted for. -/
structure Sound (x : List (NetOp ι) × Network ι) (i : ι) (p : Party ι) : Prop where
  books : p.Books
  stamped : p.receipts.map (·.number) = sentIds p.state.trace
  received : ∀ r ∈ p.receipts, ∃ topicName doc,
    x.2.Receives i r.number r.client r.requestId topicName doc
  drawn : ∀ q ∈ p.drawn, DrawnBy x.1 i q
  sent : ∀ q ∈ p.sent, DrawnBy x.1 i q ∧
    .publishedRpc q.topicName q.json q.requestId ∈ p.state.trace
  results : Results x.1 i p.state

/-- The invariant. -/
structure Inv (x : List (NetOp ι) × Network ι) : Prop where
  sound : ∀ i, Sound x i (x.2 i)
  justified : (causality ι).Justified x

section Grows

variable {w w' : List (NetOp ι)} {x y : List (NetOp ι) × Network ι} {i : ι}

lemma DrawnBy.mono {q : Outgoing} (hw : w ⊆ w') (h : DrawnBy w i q) : DrawnBy w' i q :=
  ⟨hw h.asked, h.message, h.topic, h.fits⟩

lemma Supplied.mono {actionName : Str} {u : UUID} {result : JsonText} (hw : w ⊆ w')
    (h : Supplied w i actionName u result) : Supplied w' i actionName u result := by
  obtain ⟨env, code, json, reply, hop, hreply, hresult⟩ := h
  exact ⟨env, code, json, reply, hw hop, hreply, hresult⟩

lemma Results.mono {s : State} (hw : w ⊆ w') (h : Results w i s) : Results w' i s :=
  fun u j hj hresult => (h u j hj hresult).mono hw

/-- Results are written by one event only. -/
lemma Results.effect {s t : State} {new : List Event} (h : Results w i s) (hw : w ⊆ w')
    (heff : Effect new s t) (hnew : ∀ e ∈ new, ∀ v r, e ≠ .resultSet v r) : Results w' i t := by
  intro u j hj hresult
  rw [heff.entry] at hj
  obtain ⟨j', hj', hname, hsame⟩ := result_of_replay hj hresult hnew
  rw [← hname, ← hsame]
  exact (h u j' hj' (hsame ▸ hresult)).mono hw

lemma Sound.mono {p : Party ι} (h : Sound x i p) (hg : Grows x y) : Sound y i p where
  books := h.books
  stamped := h.stamped
  received r hr := by
    obtain ⟨topicName, doc, hrec⟩ := h.received r hr
    exact ⟨topicName, doc, hrec.mono hg⟩
  drawn q hq := (h.drawn q hq).mono hg.history
  sent q hq := (h.sent q hq).imp_left (·.mono hg.history)
  results := h.results.mono hg.history

end Grows

/-! ### One step -/

section Step

variable [DecidableEq ι] {w : List (NetOp ι)} {N : Network ι} {op : NetOp ι} {i : ι}
  {p : Party ι} {new : List Event}

lemma grows_update (htrace : p.state.trace = (N i).state.trace ++ new)
    (hreceipts : (N i).receipts ⊆ p.receipts) :
    Grows (w, N) (w ++ [op], Function.update N i p) where
  history := List.subset_append_left _ _
  trace j := by
    by_cases hj : j = i
    · subst hj
      simp [htrace]
    · simp [hj]
  receipts j := by
    by_cases hj : j = i
    · subst hj
      simpa using hreceipts
    · simp [hj]

lemma inv_update (h : Inv (w, N)) (htrace : p.state.trace = (N i).state.trace ++ new)
    (hreceipts : (N i).receipts ⊆ p.receipts)
    (hsound : Sound (w ++ [op], Function.update N i p) i p)
    (hnew : ∀ e ∈ new, Cause (w ++ [op]) (Function.update N i p) i e) :
    Inv (w ++ [op], Function.update N i p) := by
  have hg : Grows (w, N) (w ++ [op], Function.update N i p) := grows_update htrace hreceipts
  refine ⟨fun j => ?_, h.justified.step hg fun j => ?_⟩
  · by_cases hj : j = i
    · subst hj
      simpa using hsound
    · simpa [hj] using (h.sound j).mono hg
  · by_cases hj : j = i
    · subst hj
      exact ⟨new, by simpa [causality] using htrace, hnew⟩
    · exact ⟨[], by simp [causality, hj], by simp⟩

lemma inv_idle (h : Inv (w, N)) : Inv (w ++ [op], Function.update N i (N i)) := by
  have htrace : (N i).state.trace = (N i).state.trace ++ [] := (List.append_nil _).symm
  refine inv_update h htrace (List.Subset.refl _) ?_ (by simp)
  exact (h.sound i).mono (grows_update htrace (List.Subset.refl _))

lemma inv_send (h : Inv (w, N)) (hbooks : p.Books)
    (htrace : p.state.trace = (N i).state.trace ++ new) (hreceipts : p.receipts = (N i).receipts)
    (hids : sentIds new = []) (hdrawn : ∀ r ∈ p.drawn, r ∈ (N i).drawn ∨ DrawnBy (w ++ [op]) i r)
    (hsent : ∀ r ∈ p.sent, r ∈ (N i).sent ∨
      DrawnBy (w ++ [op]) i r ∧ .publishedRpc r.topicName r.json r.requestId ∈ p.state.trace)
    (hresults : Results (w ++ [op]) i p.state)
    (hnew : ∀ e ∈ new, Cause (w ++ [op]) (Function.update N i p) i e) :
    Inv (w ++ [op], Function.update N i p) := by
  have hg : Grows (w, N) (w ++ [op], Function.update N i p) :=
    grows_update htrace (hreceipts ▸ List.Subset.refl _)
  have hi := (h.sound i).mono hg
  refine inv_update h htrace (hreceipts ▸ List.Subset.refl _) ⟨hbooks, ?_, ?_, ?_, ?_, hresults⟩
    hnew
  · rw [hreceipts, htrace, sentIds_append, hids, List.append_nil, hi.stamped]
  · intro r hr
    rw [hreceipts] at hr
    exact hi.received r hr
  · exact fun r hr => (hdrawn r hr).elim (hi.drawn r) id
  · intro r hr
    refine (hsent r hr).elim (fun hr => ?_) id
    rw [htrace]
    exact (hi.sent r hr).imp_right (List.mem_append_left _)

lemma inv_call {o : Option Nat} {t : State} (h : Inv (w, N)) (hev : Evolves o (N i).state t)
    (hspends : Spends (N i).state t) (htrace : t.trace = (N i).state.trace ++ new)
    (hnew : ∀ e ∈ new, e.sentId = none ∧
      Cause (w ++ [op]) (Function.update N i { N i with state := t }) i e)
    (hresults : Results (w ++ [op]) i t) :
    Inv (w ++ [op], Function.update N i { N i with state := t }) := by
  have hids : sentIds new = [] := List.filterMap_eq_nil_iff.mpr fun e he => (hnew e he).1
  exact inv_send h ((h.sound i).books.spends rfl hev hspends) htrace rfl hids
    (fun r hr => .inl hr) (fun r hr => .inl hr) hresults fun e he => (hnew e he).2

end Step

/-! ### Requests -/

section Requests

variable [DecidableEq ι] {w : List (NetOp ι)} {N : Network ι} {i : ι} (h : Inv (w, N))

include h

lemma inv_draw {q : Request} (hfits : FitsParty (N i).state (.draw q)) :
    Inv (w ++ [.act i (.draw q)], Function.update N i ((N i).drawRequest q)) := by
  unfold Party.drawRequest
  split
  · next json topicName hmsg ht =>
    have heff := (step_draw (o := none) (N i).state).toEffect
    refine inv_send h ((h.sound i).books.effect heff ?_) heff.trace rfl rfl (fun r hr => ?_)
      (fun r hr => .inl hr) ?_ fun e he => ?_
    · have hused : usedIds [.newRequestId (N i).state.handler.nextRequestId.1] = [] := rfl
      rw [hused, List.append_nil, List.map_append, ← List.append_assoc]
      exact (h.sound i).books.used.append (List.Subperm.refl _)
    · rcases List.mem_append.mp hr with hr | hr
      · exact .inl hr
      · obtain rfl := List.mem_singleton.mp hr
        refine .inr ⟨List.mem_append_right _ List.mem_cons_self, hmsg, ht, ?_⟩
        rintro serviceName json protocol rfl
        exact hfits
    · exact (h.sound i).results.effect (List.subset_append_left _ _) heff (by simp)
    · obtain rfl := List.mem_singleton.mp he
      exact .internal rfl
  · exact inv_idle h

lemma inv_publishRpc (env : Env) (k : Nat) :
    Inv (w ++ [.act i (.publishRpc env k)], Function.update N i ((N i).publishDrawn env k)) := by
  unfold Party.publishDrawn
  split
  · exact inv_idle h
  · next r hr =>
    obtain ⟨hlt, hget⟩ := List.getElem?_eq_some_iff.mp hr
    have hmem : r ∈ (N i).drawn := hget ▸ List.getElem_mem hlt
    have hby : DrawnBy (w ++ [.act i (.publishRpc env k)]) i r :=
      ((h.sound i).drawn r hmem).mono (List.subset_append_left _ _)
    have hperm : (r.requestId :: ((N i).drawn.eraseIdx k).map (·.requestId)).Perm
        ((N i).drawn.map (·.requestId)) := by
      have := (List.getElem_cons_eraseIdx_perm hlt).map (·.requestId)
      rwa [hget] at this
    have hdrawn : ∀ r' ∈ (N i).drawn.eraseIdx k,
        r' ∈ (N i).drawn ∨ DrawnBy (w ++ [.act i (.publishRpc env k)]) i r' :=
      fun r' hr' => .inl (List.mem_of_mem_eraseIdx hr')
    have hbooks := (h.sound i).books
    have hresults := (h.sound i).results
    by_cases hpub : (N i).state.rpcPublishable env r.topicName r.json
    · have hrun : after (publishRpc env r.topicName r.json r.requestId) (N i).state =
          (N i).state.log [.publishedRpc r.topicName r.json r.requestId] := by
        rw [after_ok (publishRpc_run ..), if_pos hpub]
      rw [hrun, if_pos hpub]
      have heff : Effect [.publishedRpc r.topicName r.json r.requestId] (N i).state
          ((N i).state.log [.publishedRpc r.topicName r.json r.requestId]) := effect_log rfl _
      refine inv_send h (hbooks.effect heff ?_) heff.trace rfl rfl hdrawn (fun r' hr' => ?_)
        (hresults.effect (List.subset_append_left _ _) heff (by simp)) fun e he => ?_
      · have hused : (usedIds [.publishedRpc r.topicName r.json r.requestId]).Sublist
            [r.requestId] := usedIds_publishedRpc ..
        rw [List.append_assoc]
        refine List.Subperm.trans ?_ (hbooks.used.trans (List.sublist_append_left _ _).subperm)
        exact (List.Subperm.refl _).append ((hused.append_right _).subperm.trans hperm.subperm)
      · rcases List.mem_append.mp hr' with hr' | hr'
        · exact .inl hr'
        · obtain rfl := List.mem_singleton.mp hr'
          exact .inr ⟨hby, by simp⟩
      · obtain rfl := List.mem_singleton.mp he
        exact .request hby.asked hby.message hby.topic hby.fits
    · have hrun : after (publishRpc env r.topicName r.json r.requestId) (N i).state =
          (N i).state := by
        rw [after_ok (publishRpc_run ..), if_neg hpub]
      rw [hrun, if_neg hpub]
      refine inv_send h (hbooks.effect (Effect.refl _) ?_) (Effect.refl _).trace rfl rfl hdrawn
        (fun r' hr' => .inl hr') (hresults.mono (List.subset_append_left _ _)) (by simp)
      have hsub : ((N i).drawn.eraseIdx k).Sublist (N i).drawn := List.eraseIdx_sublist ..
      simpa [usedIds, drawnIds] using
        ((hsub.map (·.requestId)).append_left _).subperm.trans hbooks.used

lemma inv_storeGoal (env : Env) (k : Nat) :
    Inv (w ++ [.act i (.storeGoal env k)], Function.update N i ((N i).storeSent env k)) := by
  unfold Party.storeSent
  split
  · exact inv_idle h
  · next r hr =>
    obtain ⟨hlt, hget⟩ := List.getElem?_eq_some_iff.mp hr
    obtain ⟨hby, hpub⟩ := (h.sound i).sent r (hget ▸ List.getElem_mem hlt)
    have hsent : ∀ r' ∈ (N i).sent.eraseIdx k, r' ∈ (N i).sent :=
      fun r' hr' => List.mem_of_mem_eraseIdx hr'
    have hbooks := (h.sound i).books
    have hresults := (h.sound i).results
    have hw : w ⊆ w ++ [.act i (.storeGoal env k)] := List.subset_append_left _ _
    split
    · next actionName json goalId protocol hgoal =>
      obtain ⟨e, heff, he⟩ := storeGoal_effect env actionName goalId r.requestId protocol
        (N i).state
      have hplain : drawnIds [e] = [] ∧ usedIds [e] = [] ∧ sentIds [e] = [] := by
        rcases he with rfl | rfl <;> exact ⟨rfl, rfl, rfl⟩
      refine inv_send h (hbooks.plain rfl heff hplain.1 hplain.2.1) heff.trace rfl hplain.2.2
        (fun r' hr' => .inl hr') (fun r' hr' => .inl (hsent r' hr')) (hresults.effect hw heff ?_)
        fun e' he' => ?_
      · rcases he with rfl | rfl <;> simp
      · obtain rfl := List.mem_singleton.mp he'
        rcases he with rfl | rfl
        · have hmsg := hby.message
          have htopic := hby.topic
          rw [hgoal] at hmsg htopic
          obtain ⟨doc, hdoc, hjson⟩ := exists_of_map_ok hmsg
          have hlog : .publishedRpc r.topicName r.json r.requestId ∈
              (after (storeGoal env actionName goalId r.requestId protocol) (N i).state).trace := by
            rw [heff.trace]
            exact List.mem_append_left _ hpub
          rw [← hjson] at hlog
          refine .sentRecord ?_ rfl htopic (goalOf_createGoalRequest hdoc)
            (.goal (hw (hgoal ▸ hby.asked)))
          rwa [Function.update_self]
        · exact .internal rfl
    · have htrace : (N i).state.trace = (N i).state.trace ++ [] := (List.append_nil _).symm
      exact inv_send h ⟨hbooks.counts, hbooks.entry, hbooks.used⟩ htrace rfl rfl
        (fun r' hr' => .inl hr') (fun r' hr' => .inl (hsent r' hr')) (hresults.mono hw) (by simp)

end Requests

/-! ### Replies -/

section Replies

variable [DecidableEq ι] {w : List (NetOp ι)} {N : Network ι} {i : ι} (h : Inv (w, N))

include h

lemma inv_reply {op : NetOp ι} {env : Env} {serviceName : Str} {json : JsonText} {requestId : Nat}
    (hcause : ∀ N' topicName,
      Grows (w, N) (w ++ [op], N') →
      replyTopic ((N i).state.serviceProtocol serviceName) serviceName = some topicName →
      Cause (w ++ [op]) N' i (.publishedRpc topicName json requestId)) :
    Inv (w ++ [op], Function.update N i { N i with
      state := after (sendServiceReply env serviceName json requestId) (N i).state }) := by
  have hrun := after_ok (sendServiceReply_eq env serviceName json requestId (N i).state)
  have hspends := spends_sendServiceReply env serviceName json requestId (N i).state
  obtain ⟨new, hstep⟩ : Evolves none (N i).state _ :=
    keeps_sendServiceReply env serviceName json requestId (N i).state
  obtain rfl : new = (N i).state.replyEvents env serviceName json requestId :=
    List.append_cancel_left (hstep.trace.symm.trans (congrArg State.trace hrun))
  have hmem : ∀ e ∈ (N i).state.replyEvents env serviceName json requestId, ∃ topicName,
      replyTopic ((N i).state.serviceProtocol serviceName) serviceName = some topicName ∧
        e = .publishedRpc topicName json requestId := by
    intro e he
    unfold State.replyEvents at he
    split at he
    · cases he
    · next topicName ht =>
      split at he
      · exact ⟨topicName, ht, List.mem_singleton.mp he⟩
      · cases he
  refine inv_call h ⟨_, hstep⟩ hspends hstep.trace (fun e he => ?_)
    ((h.sound i).results.effect (List.subset_append_left _ _) hstep.toEffect fun e he v r heq => ?_)
  · obtain ⟨topicName, ht, rfl⟩ := hmem e he
    exact ⟨rfl, hcause _ topicName (grows_update hstep.trace (List.Subset.refl _)) ht⟩
  · obtain ⟨topicName, -, rfl⟩ := hmem e he
    cases heq

lemma inv_sendServiceReply {env : Env} {serviceName : Str} {json : JsonText} {requestId : Nat}
    (hfits : FitsParty (N i).state (.sendServiceReply env serviceName json requestId)) :
    Inv (w ++ [.act i (.sendServiceReply env serviceName json requestId)],
      Function.update N i ((N i).act (.sendServiceReply env serviceName json requestId))) := by
  obtain ⟨asked, time, hasked⟩ := hfits
  refine inv_reply h fun N' topicName hg ht => ?_
  exact .serviceReply (List.mem_append_right _ List.mem_cons_self) ht
    ⟨asked, time, hg.trace i hasked⟩

lemma inv_sendActionCancelGoalReply (env : Env) (actionName : Str) (goalIds : List UUID)
    (cancelCode : CancelCode) (requestId : Nat) :
    Inv (w ++ [.act i (.sendActionCancelGoalReply env actionName goalIds cancelCode requestId)],
      Function.update N i
        ((N i).act (.sendActionCancelGoalReply env actionName goalIds cancelCode requestId))) := by
  refine inv_reply h fun N' topicName _ ht => ?_
  refine .cancelReply (List.mem_append_right _ List.mem_cons_self) ht ⟨_, fun g hg => ?_, rfl⟩
  obtain ⟨u, hu, hg⟩ := List.mem_filterMap.mp hg
  obtain ⟨t, -, rfl⟩ := Option.map_eq_some_iff.mp hg
  exact hu

omit h in
lemma sendActionResult_cases (env : Env) (actionName : Str) (u : UUID) (code : StatusCode)
    (json : JsonText) (s : State) :
    after (sendActionResult env actionName u code json) s = s ∨
      ∃ reply j, createResultReplyMsg code json = .ok reply ∧ s.handler.entry u = some j ∧
        j.actionName = actionName ∧
        ((j.resultRequestId ≠ 0 ∧ after (sendActionResult env actionName u code json) s =
            after (getResultReplyCallback env actionName u (.doc reply) j.resultRequestId) s) ∨
          after (sendActionResult env actionName u code json) s =
            after (setResult u (.doc reply)) s) := by
  unfold sendActionResult
  rw [after_bind_ok (readHandler_run s _)]
  split
  · rcases hreply : createResultReplyMsg code json with e | reply
    · exact .inl rfl
    · rw [lift_ok, pure_bind]
      unfold handleActionResult
      rw [after_bind_ok (readHandler_run s _)]
      rcases hj : s.handler.entry u with _ | j
      · exact .inl rfl
      · by_cases hname : j.actionName = actionName
        · by_cases hid : j.resultRequestId = 0
          · exact .inr ⟨reply, j, rfl, rfl, hname, .inr (by simp [hname, hid])⟩
          · exact .inr ⟨reply, j, rfl, rfl, hname, .inl ⟨hid, by simp [hname, hid]⟩⟩
        · exact .inl (by simp [hname, after])
  · exact .inl rfl

lemma inv_sendActionResult (env : Env) (actionName : Str) (u : UUID) (code : StatusCode)
    (json : JsonText) :
    Inv (w ++ [.act i (.sendActionResult env actionName u code json)],
      Function.update N i ((N i).act (.sendActionResult env actionName u code json))) := by
  have hop : .act i (.sendActionResult env actionName u code json) ∈
      w ++ [.act i (.sendActionResult env actionName u code json)] :=
    List.mem_append_right _ List.mem_cons_self
  have hw : w ⊆ w ++ [.act i (.sendActionResult env actionName u code json)] :=
    List.subset_append_left _ _
  unfold Party.act
  rcases sendActionResult_cases env actionName u code json (N i).state with
    hsame | ⟨reply, j, hreply, hj, hname, ⟨hid, hrun⟩ | hrun⟩
  · simp only [hsame]
    exact inv_idle h
  · simp only [hrun]
    have hspends := spends_getResultReplyCallback env actionName u (.doc reply) j.resultRequestId
      (N i).state
    obtain ⟨new, hstep⟩ := keeps_getResultReplyCallback env actionName u (.doc reply)
      j.resultRequestId (N i).state
    set t := after (getResultReplyCallback env actionName u (.doc reply) j.resultRequestId)
      (N i).state
    set N' := Function.update N i { N i with state := t } with hN'
    have hg : Grows (w, N) (w ++ [.act i (.sendActionResult env actionName u code json)], N') :=
      grows_update hstep.trace (List.Subset.refl _)
    obtain ⟨p, time, hstored⟩ : ∃ p time, .storedRequest actionName u j.resultRequestId .result p
        time ∈ (N i).state.trace := by
      have hentry := ((h.sound i).books.entry u).symm.trans hj
      rcases record_of_replay hentry (rfl : j.getRequest .result = _) hid with
        ⟨j', hj', -⟩ | ⟨p, time, hmem⟩
      · cases hj'
      · exact ⟨p, time, hname ▸ hmem⟩
    have haccrues : Accrues State.trace [] (fun _ e => e.sentId = none ∧
        (∀ v r, e ≠ .resultSet v r) ∧
          Cause (w ++ [.act i (.sendActionResult env actionName u code json)]) N' i e)
        (N i).state t :=
      accrues_getResultReplyCallback env
        (fun l protocol topicName _ ht => ⟨rfl, by simp,
          .resultReply hop hreply ht ⟨p, time, hg.trace i hstored⟩⟩)
        (fun l reason => ⟨rfl, by simp, .internal rfl⟩)
        (fun l sent => ⟨rfl, by simp, .internal rfl⟩) (N i).state
    obtain ⟨es, htrace, hes⟩ := haccrues (List.nil_subset _)
    obtain rfl : new = es := List.append_cancel_left (hstep.trace.symm.trans htrace)
    exact inv_call h ⟨_, hstep⟩ hspends htrace (fun e he => ⟨(hes e he).1, (hes e he).2.2⟩)
      ((h.sound i).results.effect hw hstep.toEffect fun e he => (hes e he).2.1)
  · simp only [hrun]
    have hstep := step_setResult (o := none) u (.doc reply) (N i).state
    refine inv_call h ⟨_, hstep⟩ ⟨_, hstep.trace, List.nil_sublist _⟩ hstep.trace (fun e he => ?_)
      fun v j' hj' hfull => ?_
    · obtain rfl := List.mem_singleton.mp he
      exact ⟨rfl, .internal rfl⟩
    · have hentry : ((N i).state.handler.setResult u (.doc reply)).2.entry v = some j' := hj'
      rw [Handler.entry_setResult] at hentry
      split at hentry
      · next hv =>
        subst hv
        rw [hj] at hentry
        have hset : (j.setResult (.doc reply)).2 = j' := Option.some.inj hentry
        have hcases : (j.setResult (.doc reply)).2 = j ∨
            (j.setResult (.doc reply)).2 = { j with result := .doc reply } := by
          unfold ActionRequestInfo.setResult
          split
          · exact .inl rfl
          · exact .inr rfl
        rw [hset] at hcases
        rcases hcases with rfl | rfl
        · exact ((h.sound i).results v j' hj hfull).mono hw
        · exact ⟨env, code, json, reply, hname.symm ▸ hop, hreply, rfl⟩
      · exact ((h.sound i).results v j' hentry hfull).mono hw

end Replies

/-! ### Samples and discovery -/

section Others

variable [DecidableEq ι] {w : List (NetOp ι)} {N : Network ι} {i : ι} (h : Inv (w, N))

include h

lemma inv_publishSample {env : Env} {typeName : Str} {sample : Publication}
    (hfits : FitsParty (N i).state (.publishSample env typeName sample)) :
    Inv (w ++ [.act i (.publishSample env typeName sample)],
      Function.update N i ((N i).publishTopic env typeName sample)) := by
  unfold Party.publishTopic
  split
  · next topicName json ht hmsg =>
    rcases publishSample_cases env topicName typeName json (N i).state with hrun | hrun
    · rw [hrun]
      exact inv_idle h
    · rw [hrun]
      have heff : Effect [.published topicName json] (N i).state
        ((N i).state.log [.published topicName json]) := effect_log rfl _
      refine inv_send h ((h.sound i).books.plain rfl heff rfl rfl) heff.trace rfl rfl
        (fun r hr => .inl hr) (fun r hr => .inl hr)
        ((h.sound i).results.effect (List.subset_append_left _ _) heff (by simp)) fun e he => ?_
      obtain rfl := List.mem_singleton.mp he
      refine .sample (List.mem_append_right _ List.mem_cons_self) hmsg ht ?_
      cases sample <;> exact hfits
  · exact inv_idle h

lemma inv_others {participant : Participant} {schemas : Tables.Table Str (Nat × DynType)}
    {notices : List Event} (hnotices : ∀ e ∈ notices, e.isDiscovery) :
    Inv (w ++ [.act i (.others participant schemas notices)],
      Function.update N i ((N i).act (.others participant schemas notices))) := by
  have hi := h.sound i
  have hquiet : ∀ (f : Event → Option Nat), (∀ e, e.isDiscovery → f e = none) →
      notices.filterMap f = [] :=
    fun f hf => List.filterMap_eq_nil_iff.mpr fun e he => hf e (hnotices e he)
  have hdrawn : drawnIds notices = [] := hquiet _ fun e he => by
    cases e <;> first | rfl | cases he
  have hused : usedIds notices = [] := hquiet _ fun e he => by
    cases e <;> first | rfl | cases he
  have hsent : sentIds notices = [] := hquiet _ fun e he => by
    cases e <;> first | rfl | cases he
  have htrace : ((N i).act (.others participant schemas notices)).state.trace =
      (N i).state.trace ++ notices := rfl
  refine inv_send h ⟨?_, fun u => ?_, ?_⟩ htrace rfl hsent (fun r hr => .inl hr)
    (fun r hr => .inl hr) (hi.results.mono (List.subset_append_left _ _))
    fun e he => .internal ?_
  · rw [htrace, drawnIds_append, hdrawn, List.append_nil]
    exact hi.books.counts
  · rw [htrace, replay_append, replay_discovery hnotices]
    exact hi.books.entry u
  · rw [htrace, drawnIds_append, usedIds_append, hdrawn, hused, List.append_nil, List.append_nil]
    exact hi.books.used
  · have := hnotices e he
    cases e <;> first | rfl | cases this

end Others

/-! ### Received samples -/

/-- The counters of the enablers have not overflowed. -/
def Within (N : Network ι) : Prop := ∀ i, (drawnIds (N i).state.trace).length < 2 ^ 64

section Received

variable {w w' : List (NetOp ι)} {N N' : Network ι} {sender receiver : ι} {number : Nat}
  {env : Env} {topic : DdsTopic} {data : Sample} {doc : Json}

/-- What a sample makes of a request identifier, the receiver has a record of. -/
lemma recorded_of_found {i : ι} (h : (N i).Books) (hg : Grows (w, N) (w', N')) {order : VisitOrder}
    {r : Nat} {ty : ActionType} {u : UUID}
    (hu : (N i).state.handler.getActionRequestUUID order r ty = some u) : N'.Recorded i u r ty := by
  intro hr
  obtain ⟨j, hj, hreq⟩ := Tables.mem_of_scan hu
  have hentry : (N i).state.handler.entry u = some j :=
    Tables.mem_entries.mp ((order.perm _).mem_iff.mp hj)
  rw [h.entry] at hentry
  have hget := RequestSystem.hasRequest_iff.mp hreq
  rcases record_of_replay hentry hget hr with ⟨j', hj', -⟩ | ⟨p, t, hmem⟩
  · cases hj'
  · exact ⟨_, p, t, hg.trace i hmem⟩

/-- All that a received sample does has its cause in what the sender has published. -/
lemma cause_of_bySample (h : Inv (w, N)) (hg : Grows (w, N) (w', N'))
    (hop : .deliver sender receiver number env topic data ∈ w')
    (hcarries : N.Carries sender receiver number topic.topicName data doc)
    (hstamp : .sentSequenceNumber (N receiver).state.handler.nextRequestId.1 ∈
        (N' receiver).state.trace →
      ⟨(N receiver).state.handler.nextRequestId.1, sender, number⟩ ∈ (N' receiver).receipts)
    {e : Event} (he : BySample env (.ofTopic topic.topicName) data (data.message topic) doc
      (N receiver).state (N' receiver).state.trace e) : Cause w' N' receiver e := by
  have hbooks := (h.sound receiver).books
  set info := RpcInfo.ofTopic topic.topicName with hinfo
  have hnone : info.serviceType = .none →
      .published topic.topicName (.doc doc) ∈ (N' sender).state.trace := by
    intro hst
    simp only [Carries, ← hinfo, hst] at hcarries
    exact hg.trace sender hcarries
  have hreceives : info.serviceType = .request →
      .sentSequenceNumber (N receiver).state.handler.nextRequestId.1 ∈
        (N' receiver).state.trace →
      N'.Receives receiver (N receiver).state.handler.nextRequestId.1 sender number
        topic.topicName doc := by
    intro hst hmem
    simp only [Carries, ← hinfo, hst] at hcarries
    exact ⟨hstamp hmem, hg.trace sender hcarries, hst⟩
  have hanswers : info.serviceType = .reply →
      N'.Answers sender number receiver data.relatedSequenceNumber topic.topicName doc := by
    intro hst
    simp only [Carries, ← hinfo, hst] at hcarries
    exact ⟨hg.receipts sender hcarries.2, hg.trace sender hcarries.1, hst⟩
  have hgoal : ∀ u, goalIdOf (data.message topic) ((data.message topic).wrap doc) = .ok u →
      goalOf doc = .ok u := fun u hu => (goalIdOf_wrap ..).symm.trans hu
  cases he
  case drawn => exact .internal rfl
  case erased => exact .internal rfl
  case stamped => exact .internal rfl
  case goalAnswered => exact .internal rfl
  case resultReplied => exact .internal rfl
  case topic h => exact .data (hnone ((serviceType_ofTopic _).1 h)) h
  case serviceRequest h h' hmem => exact .serviceRequest (hreceives h' hmem) h
  case stored hpart hu hmem =>
    exact .receivedRecord (hreceives hpart.serviceType hmem) hpart (hgoal _ hu)
  case goalRequest hpart hu hmem =>
    exact .goalRequest (hreceives hpart.serviceType hmem) hpart (hgoal _ hu)
  case goalAnswer hpart hu hmem ht =>
    exact .goalReply (hreceives hpart.serviceType hmem) hpart (hgoal _ hu) hop rfl ht
  case cancelRequest hpart hu hmem =>
    exact .cancelAsked (hreceives hpart.serviceType hmem) hpart hu
  case resultReply hpart hu hi hname hresult ht hstored =>
    obtain ⟨env', code, json, reply, hcall, hreply, hsame⟩ :=
      (h.sound receiver).results _ _ hi hresult
    rw [hsame]
    exact .resultReply (hg.history (hname ▸ hcall)) hreply ht ⟨_, _, hstored⟩
  case serviceReply hservice hst =>
    have hreply : info.serviceType = .reply := by
      have := (serviceType_ofTopic topic.topicName).2 hservice
      cases hcase : info.serviceType <;> simp_all
    exact .serviceAnswer (hanswers hreply) hservice
  case decision hpart hu hread =>
    exact .decision ⟨sender, number, _, _, doc, _, hanswers hpart.serviceType, hpart, rfl, hread,
      recorded_of_found hbooks hg hu⟩
  case resultRequest hpart hu hread ht =>
    exact .resultRequest ht ⟨sender, number, _, _, doc, _, hanswers hpart.serviceType, hpart, rfl,
      catchJson_ok hread, recorded_of_found hbooks hg hu⟩
  case resultRequested hpart hu hread =>
    exact .resultAsked ⟨sender, number, _, _, doc, _, hanswers hpart.serviceType, hpart, rfl,
      catchJson_ok hread, recorded_of_found hbooks hg hu⟩
  case cancelled ht => exact .cancelRequest ht
  case resultStored hpart hu hread ht hpub =>
    exact .sentRecord hpub rfl ht (jsonToUuid_uuidJson _)
      (.result ⟨sender, number, _, _, doc, _, hanswers hpart.serviceType, hpart, rfl,
        catchJson_ok hread, recorded_of_found hbooks hg hu⟩)
  case aborted hsent => exact .aborted hsent
  case cancelReply hpart hcode hgoals hmem hu =>
    exact .cancelled (hanswers hpart.serviceType) hpart hcode hgoals hmem hu
  case result hpart hu =>
    exact .result (hanswers hpart.serviceType) hpart (recorded_of_found hbooks hg hu)
  case feedback hpart hread => exact .feedback (hnone hpart.serviceType) hpart hread
  case status hpart hlist hmem hu hcode =>
    exact .status (hnone hpart.serviceType) hpart hlist hmem hu hcode

variable [DecidableEq ι]

lemma inv_deliver (h : Inv (w, N)) (hlt : Within N)
    (hfits : N.Fits (.deliver sender receiver number env topic data)) :
    Inv (w ++ [.deliver sender receiver number env topic data], Function.update N receiver
      ((N receiver).receive sender number env topic data)) := by
  obtain ⟨doc, hcarries, hdecode⟩ := hfits
  have hi := h.sound receiver
  obtain ⟨o, new, hstep⟩ := RequestSystem.received_evolves
    (received_addData env data topic (N receiver).state)
  obtain ⟨es, htrace, hes⟩ := bySample_addData env topic data doc (N receiver).state
    fun typeId dynType d hs hd => Option.some.inj (hd.symm.trans (hdecode typeId dynType hs))
  obtain rfl : new = es := List.append_cancel_left (hstep.trace.symm.trans htrace)
  have hspends := spends_addData env data topic (N receiver).state
  set t := after (addData env topic data) (N receiver).state with ht
  have hnew : newEvents (N receiver).state t = new := newEvents_eq htrace
  set p := (N receiver).receive sender number env topic data with hp
  have hstate : p.state = t := rfl
  have hreceipts : p.receipts =
      (N receiver).receipts ++ (sentIds new).map fun n => ⟨n, sender, number⟩ := by
    rw [← hnew]
    rfl
  set op : NetOp ι := .deliver sender receiver number env topic data with hop
  have hg : Grows (w, N) (w ++ [op], Function.update N receiver p) := grows_update htrace
    (hreceipts ▸ List.subset_append_left _ _)
  have hnewReceipt : ∀ n ∈ sentIds new, ⟨n, sender, number⟩ ∈ p.receipts := by
    intro n hn
    rw [hreceipts]
    exact List.mem_append_right _ (List.mem_map_of_mem hn)
  refine inv_update h htrace (hreceipts ▸ List.subset_append_left _ _) ?_ fun e he => ?_
  · have hold := hi.mono hg
    refine ⟨hi.books.spends rfl ⟨_, hstep⟩ hspends, ?_, fun r hr => ?_, hold.drawn,
      fun r hr => (hold.sent r hr).imp_right fun hmem => ?_,
      hi.results.effect (List.subset_append_left _ _) hstep.toEffect fun e he v r heq => ?_⟩
    · rw [hreceipts, List.map_append, hi.stamped, hstate, htrace, sentIds_append, List.map_map]
      simp [Function.comp_def]
    · rw [hreceipts] at hr
      rcases List.mem_append.mp hr with hr | hr
      · exact hold.received r hr
      · obtain ⟨n, hn, rfl⟩ := List.mem_map.mp hr
        obtain ⟨e, he, hid⟩ := List.mem_filterMap.mp hn
        have hst : (RpcInfo.ofTopic topic.topicName).serviceType = .request := by
          cases hes e he <;> first | assumption | cases hid
        simp only [Carries, hst] at hcarries
        refine ⟨topic.topicName, doc, ?_, hg.trace sender hcarries, hst⟩
        simpa using hnewReceipt n hn
    · rw [hstate, htrace]
      exact List.mem_append_left _ hmem
    · subst heq
      cases hes _ he
  · refine cause_of_bySample h hg (List.mem_append_right _ List.mem_cons_self) hcarries
      (fun hmem => ?_) (by simpa [hstate] using hes e he)
    rw [Function.update_self] at hmem ⊢
    rw [hstate, htrace] at hmem
    refine hnewReceipt _ (List.mem_filterMap.mpr ⟨.sentSequenceNumber _, ?_, rfl⟩)
    exact (List.mem_append.mp hmem).resolve_left (hi.books.unstamped (hlt receiver))

end Received

/-! ### Runs -/

section Runs

lemma inv_start : Inv (([], start) : List (NetOp ι) × Network ι) where
  sound i :=
    { books := ⟨rfl, fun u => by simp [start, Handler.entry], List.Subperm.refl _⟩
      stamped := rfl
      received := by simp [start]
      drawn := by simp [start]
      sent := by simp [start]
      results := fun u j hj => by simp [start, Handler.entry] at hj }
  justified i e he := by simp [causality, start] at he

variable [DecidableEq ι]

lemma inv_step (w : List (NetOp ι)) (N : Network ι) (op : NetOp ι) (h : Inv (w, N))
    (hop : Within N ∧ N.Fits op) : Inv (w ++ [op], N.step op) := by
  obtain ⟨hlt, hfits⟩ := hop
  cases op with
  | deliver sender receiver number env topic data => exact inv_deliver h hlt hfits
  | act i op =>
    cases op with
    | draw request => exact inv_draw h hfits
    | publishRpc env k => exact inv_publishRpc h env k
    | storeGoal env k => exact inv_storeGoal h env k
    | sendServiceReply env serviceName json requestId => exact inv_sendServiceReply h hfits
    | sendActionCancelGoalReply env actionName goalIds cancelCode requestId =>
      exact inv_sendActionCancelGoalReply h env actionName goalIds cancelCode requestId
    | sendActionResult env actionName u code json =>
      exact inv_sendActionResult h env actionName u code json
    | publishSample env typeName sample => exact inv_publishSample h hfits
    | others participant schemas notices => exact inv_others h hfits

lemma trace_step (N : Network ι) (op : NetOp ι) (i : ι) :
    ∃ es, (N.step op i).state.trace = (N i).state.trace ++ es := by
  have hupdate : ∀ {j : ι} {p : Party ι}, (∃ es, p.state.trace = (N j).state.trace ++ es) →
      ∃ es, (Function.update N j p i).state.trace = (N i).state.trace ++ es := by
    intro j p h
    by_cases hij : i = j
    · subst hij
      simpa using h
    · exact ⟨[], by simp [hij]⟩
  cases op with
  | act j op => exact hupdate ((N j).trace_act op)
  | deliver sender receiver number env topic data =>
    obtain ⟨o, new, hstep⟩ := RequestSystem.received_evolves
      (received_addData env data topic (N receiver).state)
    exact hupdate ⟨new, hstep.trace⟩

lemma within_of_step (N : Network ι) (op : NetOp ι) (h : Within (N.step op)) : Within N := by
  intro i
  obtain ⟨es, htrace⟩ := trace_step N op i
  have hi := h i
  rw [htrace, drawnIds_append, List.length_append] at hi
  omega

/-- **Every event has its cause**, in every run whose counters do not overflow. -/
theorem inv_run {w : List (NetOp ι)} (hw : Along step Fits start w)
    (hlt : Within (run step start w)) : Inv (w, run step start w) :=
  run_history inv_step inv_start (along_and (along_of_run within_of_step hlt).2 hw)

end Runs

end Network

end DdsEnabler
