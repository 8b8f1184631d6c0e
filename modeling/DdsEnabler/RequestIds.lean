import DdsEnabler.Effects
import DdsEnabler.Lib.Runs

/-!
Request identifiers: one counter for both directions and all kinds of requests.

The enabler draws identifiers, sends requests under them, and stores them for goals later, with
other operations in between. The identifiers of the requests that are on their way, together
with those stored so far, are always distinct ones among those drawn.
-/

namespace DdsEnabler

open Exec Runs Tables

/-! ### Identifiers in the trace -/

lemma countsUp_range {c c' : Nat} {l : List Nat} (h : CountsUp c l c')
    (hlt : c + l.length < 2 ^ 64) : l = List.range' (c + 1) l.length ∧ c' = c + l.length := by
  induction l generalizing c with
  | nil => exact ⟨rfl, h⟩
  | cons id l ih =>
    rw [List.length_cons] at hlt
    obtain ⟨hid, h⟩ := h
    have hid' : id = c + 1 := by omega
    subst hid'
    obtain ⟨hl, hc⟩ := ih h (by omega)
    rw [List.length_cons, List.range'_succ, ← hl]
    exact ⟨rfl, by omega⟩

lemma storeEntry_request {i : Option ActionRequestInfo} {j : ActionRequestInfo}
    {actionName : Str} {n id : Nat} {ty' ty : ActionType} {p : Protocol} {now : Int}
    (h : Handler.storeEntry actionName n ty' p now i = some j)
    (hj : j.getRequest ty = .ok id) (hid : id ≠ 0) :
    (∃ i', i = some i' ∧ i'.getRequest ty = .ok id) ∨ ty' = ty ∧ n = id := by
  rcases i with _ | i'
  · simp only [Handler.storeEntry] at h
    split at h
    · cases h
    · cases h
      exact .inr (ActionRequestInfo.getRequest_create hj hid)
  · simp only [Handler.storeEntry] at h
    split at h
    · cases h
      exact .inl ⟨_, rfl, hj⟩
    · cases h
      exact (ActionRequestInfo.getRequest_setRequest hj).imp_left fun hi => ⟨i', rfl, hi⟩

lemma Event.onEntry_request {u : UUID} {e : Event} {i : Option ActionRequestInfo}
    {j : ActionRequestInfo} {ty : ActionType} {id : Nat} (h : e.onEntry u i = some j)
    (hj : j.getRequest ty = .ok id) (hid : id ≠ 0) :
    (∃ i', i = some i' ∧ i'.getRequest ty = .ok id) ∨
      ∃ a p t, e = .storedRequest a u id ty p t := by
  cases e with
  | storedRequest a v n ty' p t =>
    simp only [Event.onEntry] at h
    split at h
    · next huv =>
      subst huv
      refine (storeEntry_request h hj hid).imp_right ?_
      rintro ⟨rfl, rfl⟩
      exact ⟨a, p, t, rfl⟩
    · exact .inl ⟨j, h, hj⟩
  | resultSet v result =>
    simp only [Event.onEntry] at h
    split at h
    · obtain ⟨i', rfl, rfl⟩ := Option.map_eq_some_iff.mp h
      exact .inl ⟨i', rfl, by simpa using hj⟩
    · exact .inl ⟨j, h, hj⟩
  | erasedAction v reason =>
    simp only [Event.onEntry] at h
    split at h
    · obtain ⟨i', rfl, hi'⟩ := Option.bind_eq_some_iff.mp h
      refine .inl ⟨i', rfl, ?_⟩
      unfold Handler.eraseFlag at hi'
      split at hi'
      · cases hi'
      · cases hi'
        simpa using hj
    · exact .inl ⟨j, h, hj⟩
  | _ => exact .inl ⟨j, h, hj⟩

lemma stored_of_replay {u : UUID} {es : List Event} {i : Option ActionRequestInfo}
    {j : ActionRequestInfo} {ty : ActionType} {id : Nat} (h : replay u es i = some j)
    (hj : j.getRequest ty = .ok id) (hid : id ≠ 0) :
    (∃ i', i = some i' ∧ i'.getRequest ty = .ok id) ∨
      ∃ a p t, Event.storedRequest a u id ty p t ∈ es := by
  induction es generalizing i with
  | nil => exact .inl ⟨j, h, hj⟩
  | cons e es ih =>
    rw [replay_cons] at h
    rcases ih h with ⟨i', hi', hreq⟩ | ⟨a, p, t, he⟩
    · rcases Event.onEntry_request hi' hreq hid with hi | ⟨a, p, t, rfl⟩
      · exact .inl hi
      · exact .inr ⟨a, p, t, List.mem_cons_self⟩
    · exact .inr ⟨a, p, t, List.mem_cons_of_mem _ he⟩

/-- The types of requests that an entry keeps an identifier for. -/
def ActionType.isKept : ActionType → Bool
  | .goal | .result => true
  | _ => false

lemma isKept_of_getRequest {i : ActionRequestInfo} {ty : ActionType} {id : Nat}
    (h : i.getRequest ty = .ok id) : ty.isKept := by
  cases ty <;> first | rfl | cases h

lemma storedId_storedRequest {ty : ActionType} (h : ty.isKept) (a : Str) (u : UUID) (id : Nat)
    (p : Protocol) (t : Int) : (Event.storedRequest a u id ty p t).storedId = some id := by
  cases ty <;> first | rfl | cases h

/-! ### The system -/

/-- A request that has drawn its identifier and is not stored yet. -/
structure PendingRequest where
  actionName : Str
  actionId : UUID
  requestId : Nat
  actionType : ActionType
  protocol : Protocol

structure RequestSystem where
  state : State
  pending : List PendingRequest

inductive RequestOp
  /-- An identifier for a service or a cancel request of the user. -/
  | getNewRequestId
  /-- An identifier for a request that is to be stored. -/
  | drawRequest (actionName : Str) (actionId : UUID) (actionType : ActionType)
      (protocol : Protocol)
  /-- A pending request is stored. -/
  | storeRequest (env : Env) (k : Nat)
  /-- A pending request could not be published. -/
  | dropRequest (k : Nat)
  | addData (env : Env) (topic : DdsTopic) (data : Sample)
  | sendActionResult (env : Env) (actionName : Str) (goalId : UUID) (statusCode : StatusCode)
      (json : JsonText)
  | eraseActionUUID (actionId : UUID) (reason : ActionEraseReason)
  /-- Operations without request identifiers: topics, announcements, discovery. -/
  | others (participant : Participant) (schemas : Table Str (Nat × DynType))

namespace RequestSystem

def step (s : RequestSystem) : RequestOp → RequestSystem
  | .getNewRequestId => { s with state := after DdsEnabler.getNewRequestId s.state }
  | .drawRequest actionName actionId actionType protocol =>
    { state := after DdsEnabler.getNewRequestId s.state
      pending := s.pending ++
        [⟨actionName, actionId, s.state.handler.nextRequestId.1, actionType, protocol⟩] }
  | .storeRequest env k =>
    match s.pending[k]? with
    | none => s
    | some r =>
      { state := after (storeActionRequest env r.actionName r.actionId r.requestId r.actionType
          r.protocol) s.state
        pending := s.pending.eraseIdx k }
  | .dropRequest k => { s with pending := s.pending.eraseIdx k }
  | .addData env topic data => { s with state := after (DdsEnabler.addData env topic data) s.state }
  | .sendActionResult env actionName goalId statusCode json =>
    { s with state :=
        after (DdsEnabler.sendActionResult env actionName goalId statusCode json) s.state }
  | .eraseActionUUID actionId reason =>
    { s with state := after (DdsEnabler.eraseActionUUID actionId reason) s.state }
  | .others participant schemas =>
    { s with state := { s.state with
        participant, handler := { s.state.handler with schemas } } }

/-- Nothing has been requested yet; topics may be known already. -/
def start (participant : Participant) (schemas : Table Str (Nat × DynType)) : RequestSystem :=
  ⟨{ participant, handler := { schemas } }, []⟩

def pendingIds (s : RequestSystem) : List Nat := s.pending.map (·.requestId)

/-- The invariant: the trace tells the counter and the map, and the identifiers stored and
pending are distinct ones among those drawn. -/
structure Inv (s : RequestSystem) : Prop where
  counts : CountsUp 0 (drawnIds s.state.trace) s.state.handler.requestsId
  entry : ∀ u, s.state.handler.entry u = replay u s.state.trace none
  stored : (storedIds s.state.trace ++ s.pendingIds).Subperm (drawnIds s.state.trace)

lemma inv_start (participant : Participant) (schemas : Table Str (Nat × DynType)) :
    Inv (start participant schemas) where
  counts := rfl
  entry u := by simp [start, Handler.entry]
  stored := List.Subperm.refl _

lemma effect_inv {s : RequestSystem} {t : State} {new : List Event} {pending : List PendingRequest}
    (h : Inv s) (ht : Effect new s.state t)
    (hnew : (storedIds s.state.trace ++ storedIds new ++ pending.map (·.requestId)).Subperm
      (drawnIds s.state.trace ++ drawnIds new)) : Inv ⟨t, pending⟩ where
  counts := by
    rw [ht.trace, drawnIds_append]
    exact h.counts.append ht.counts
  entry u := by rw [ht.entry, ht.trace, replay_append, h.entry]
  stored := by
    rw [ht.trace, drawnIds_append, storedIds_append]
    exact hnew

/-- What a step stores it has drawn, so it leaves the pending requests alone. -/
lemma evolves_inv {s : RequestSystem} {t : State} {o : Option Nat} (h : Inv s)
    (ht : Evolves o s.state t) : Inv { s with state := t } := by
  obtain ⟨new, ht⟩ := ht
  refine effect_inv h ht.toEffect ?_
  have hperm : (storedIds s.state.trace ++ storedIds new ++ s.pendingIds).Perm
      (storedIds s.state.trace ++ s.pendingIds ++ storedIds new) := by
    rw [List.append_assoc, List.append_assoc]
    exact List.perm_append_comm.append_left _
  exact hperm.subperm.trans (h.stored.append ht.stored.subperm)

lemma received_evolves {s t : State} (h : Received s t) : ∃ o, Evolves o s t := by
  rcases h with h | ⟨id, new, h, -⟩
  · exact ⟨none, h⟩
  · exact ⟨some id, new, h⟩

lemma evolves_sendActionResult (env : Env) (actionName : Str) (u : UUID) (code : StatusCode)
    (json : JsonText) (s : State) :
    ∃ o, Evolves o s (after (DdsEnabler.sendActionResult env actionName u code json) s) := by
  unfold DdsEnabler.sendActionResult
  rw [after_bind_ok (readHandler_run s _)]
  split
  · rcases RpcUtils.createResultReplyMsg code json with e | reply
    · exact ⟨none, refl_of _ s⟩
    · exact evolves_handleActionResult env actionName u (.doc reply) s
  · exact ⟨none, refl_of _ s⟩

lemma step_inv (s : RequestSystem) (op : RequestOp) (h : Inv s) : Inv (s.step op) := by
  cases op with
  | getNewRequestId => exact evolves_inv h (keeps_draw (o := none) s.state)
  | drawRequest actionName actionId actionType protocol =>
    refine effect_inv h (step_draw (o := none) s.state).toEffect ?_
    have hstored : storedIds [.newRequestId s.state.handler.nextRequestId.1] = [] := rfl
    rw [hstored, List.append_nil, List.map_append, ← List.append_assoc]
    exact h.stored.append (List.Subperm.refl _)
  | storeRequest env k =>
    simp only [step]
    rcases hk : s.pending[k]? with _ | r
    · exact h
    · obtain ⟨new, heff, hstored, hdrawn, -⟩ := effect_store env r.actionName r.actionId
        r.requestId r.actionType r.protocol s.state
      refine effect_inv h heff ?_
      obtain ⟨hlt, hget⟩ := List.getElem?_eq_some_iff.mp hk
      have hperm : (r.requestId :: (s.pending.eraseIdx k).map (·.requestId)).Perm s.pendingIds := by
        have := (List.getElem_cons_eraseIdx_perm hlt).map (·.requestId)
        rwa [hget] at this
      rw [hdrawn, List.append_nil, List.append_assoc]
      refine List.Subperm.trans ?_ h.stored
      have hsub : (storedIds new ++ (s.pending.eraseIdx k).map (·.requestId)).Subperm
          s.pendingIds := (hstored.append_right _).subperm.trans hperm.subperm
      exact (List.Subperm.refl _).append hsub
  | dropRequest k =>
    refine ⟨h.counts, h.entry, List.Subperm.trans ?_ h.stored⟩
    exact (((List.eraseIdx_sublist ..).map _).append_left _).subperm
  | addData env topic data =>
    obtain ⟨o, ho⟩ := received_evolves (received_addData env data topic s.state)
    exact evolves_inv h ho
  | sendActionResult env actionName goalId statusCode json =>
    obtain ⟨o, ho⟩ := evolves_sendActionResult env actionName goalId statusCode json s.state
    exact evolves_inv h ho
  | eraseActionUUID actionId reason =>
    exact evolves_inv h (keeps_erase (o := none) actionId reason s.state)
  | others participant schemas => exact ⟨h.counts, h.entry, h.stored⟩

/-! ### What holds in every state reached -/

lemma eq_of_storedId {es : List Event} (h : (storedIds es).Nodup) {e e' : Event} {id : Nat}
    (he : e ∈ es) (he' : e' ∈ es) (hid : e.storedId = some id) (hid' : e'.storedId = some id) :
    e = e' := by
  induction es with
  | nil => cases he
  | cons a es ih =>
    have hmem : ∀ x ∈ es, x.storedId = some id → id ∈ storedIds es :=
      fun x hx hxid => List.mem_filterMap.mpr ⟨x, hx, hxid⟩
    have htail : (storedIds es).Nodup := by
      rcases ha : a.storedId with _ | n
      · rwa [storedIds, List.filterMap_cons_none ha] at h
      · rw [storedIds, List.filterMap_cons_some ha] at h
        exact h.of_cons
    have hhead : a.storedId = some id → id ∉ storedIds es := by
      intro ha
      rw [storedIds, List.filterMap_cons_some ha] at h
      exact (List.nodup_cons.mp h).1
    rcases List.mem_cons.mp he with heq | he
    · rcases List.mem_cons.mp he' with heq' | he'
      · rw [heq, heq']
      · exact absurd (hmem e' he' hid') (hhead (heq ▸ hid))
    · rcases List.mem_cons.mp he' with heq' | he'
      · exact absurd (hmem e he hid) (hhead (heq' ▸ hid'))
      · exact ih htail he he'

/-- What holds of the request identifiers in a state. -/
structure Correlates (s : State) : Prop where
  /-- Each identifier is issued at most once, and none is zero. -/
  issued_once : (drawnIds s.trace).Nodup
  issued_pos : 0 ∉ drawnIds s.trace
  /-- Those stored for goals are distinct, across goals and kinds, and below the counter. -/
  stored_distinct : ∀ u v i j ty ty' id, s.handler.entry u = some i →
    s.handler.entry v = some j → i.getRequest ty = .ok id → j.getRequest ty' = .ok id → id ≠ 0 →
    u = v ∧ ty = ty'
  stored_le : ∀ u i ty id, s.handler.entry u = some i → i.getRequest ty = .ok id →
    id ≤ s.handler.requestsId
  /-- The goal of an identifier is the one that holds it, in whatever order they are visited. -/
  answer_iff : ∀ order id ty u, 1 ≤ id → (s.handler.getActionRequestUUID order id ty = some u ↔
    ∃ i, s.handler.entry u = some i ∧ i.getRequest ty = .ok id)
  answer_order : ∀ order order' id ty, 1 ≤ id →
    s.handler.getActionRequestUUID order id ty = s.handler.getActionRequestUUID order' id ty
  /-- It is the goal that the identifier was issued for. -/
  answer_issued : ∀ order id ty u, 1 ≤ id →
    s.handler.getActionRequestUUID order id ty = some u →
    id ∈ drawnIds s.trace ∧ (∃ a p t, .storedRequest a u id ty p t ∈ s.trace) ∧
      ∀ a v ty' p t, ty'.isKept → .storedRequest a v id ty' p t ∈ s.trace → v = u ∧ ty' = ty

lemma Inv.drawn {s : RequestSystem} (h : Inv s) (hlt : (drawnIds s.state.trace).length < 2 ^ 64) :
    drawnIds s.state.trace = List.range' 1 (drawnIds s.state.trace).length ∧
      s.state.handler.requestsId = (drawnIds s.state.trace).length := by
  obtain ⟨hrange, hcount⟩ := countsUp_range h.counts (by omega)
  exact ⟨by simpa using hrange, by omega⟩

lemma Inv.stored_drawn {s : RequestSystem} (h : Inv s) {id : Nat}
    (hid : id ∈ storedIds s.state.trace) : id ∈ drawnIds s.state.trace :=
  h.stored.subset (List.mem_append_left _ hid)

lemma Inv.entry_stored {s : RequestSystem} (h : Inv s) {u : UUID} {i : ActionRequestInfo}
    {ty : ActionType} {id : Nat} (hi : s.state.handler.entry u = some i)
    (hreq : i.getRequest ty = .ok id) (hid : id ≠ 0) :
    ∃ a p t, Event.storedRequest a u id ty p t ∈ s.state.trace := by
  rw [h.entry] at hi
  rcases stored_of_replay hi hreq hid with ⟨i', hi', -⟩ | hstored
  · cases hi'
  · exact hstored

lemma hasRequest_iff {id : Nat} {ty : ActionType} {i : ActionRequestInfo} :
    Handler.hasRequest id ty i = true ↔ i.getRequest ty = .ok id := by
  unfold Handler.hasRequest
  rcases i.getRequest ty with e | n
  · simp
  · simp [eq_comm]

section Correlates

variable {s : RequestSystem} (h : Inv s)

include h

lemma Inv.nodup_drawn (hlt : (drawnIds s.state.trace).length < 2 ^ 64) :
    (drawnIds s.state.trace).Nodup := by
  rw [(h.drawn hlt).1]
  exact List.nodup_range' ..

lemma Inv.nodup_stored (hlt : (drawnIds s.state.trace).length < 2 ^ 64) :
    (storedIds s.state.trace).Nodup := by
  obtain ⟨l, hl, hsub⟩ := h.stored
  exact (hl.nodup_iff.mp (hsub.nodup (h.nodup_drawn hlt))).of_append_left

lemma Inv.request_stored (hlt : (drawnIds s.state.trace).length < 2 ^ 64) {u : UUID}
    {i : ActionRequestInfo} {ty : ActionType} {id : Nat} (hi : s.state.handler.entry u = some i)
    (hreq : i.getRequest ty = .ok id) (hid : id ≠ 0) :
    id ∈ drawnIds s.state.trace ∧ (∃ a p t, .storedRequest a u id ty p t ∈ s.state.trace) ∧
      ∀ a v ty' p t, ty'.isKept → .storedRequest a v id ty' p t ∈ s.state.trace →
        v = u ∧ ty' = ty := by
  obtain ⟨a, p, t, he⟩ := h.entry_stored hi hreq hid
  have hkept := storedId_storedRequest (isKept_of_getRequest hreq) a u id p t
  refine ⟨h.stored_drawn (List.mem_filterMap.mpr ⟨_, he, hkept⟩), ⟨a, p, t, he⟩, ?_⟩
  intro a' v ty' p' t' hty' he'
  have heq := eq_of_storedId (h.nodup_stored hlt) he' he (storedId_storedRequest hty' ..) hkept
  cases heq
  exact ⟨rfl, rfl⟩

lemma Inv.stored_distinct (hlt : (drawnIds s.state.trace).length < 2 ^ 64) {u v : UUID}
    {i j : ActionRequestInfo} {ty ty' : ActionType} {id : Nat}
    (hi : s.state.handler.entry u = some i) (hj : s.state.handler.entry v = some j)
    (hri : i.getRequest ty = .ok id) (hrj : j.getRequest ty' = .ok id) (hid : id ≠ 0) :
    u = v ∧ ty = ty' := by
  obtain ⟨a, p, t, he⟩ := h.entry_stored hi hri hid
  obtain ⟨-, -, honly⟩ := h.request_stored hlt hj hrj hid
  exact honly a u ty p t (isKept_of_getRequest hri) he

lemma Inv.answer_iff (hlt : (drawnIds s.state.trace).length < 2 ^ 64) (order : VisitOrder)
    {id : Nat} (ty : ActionType) (u : UUID) (hid : 1 ≤ id) :
    s.state.handler.getActionRequestUUID order id ty = some u ↔
      ∃ i, s.state.handler.entry u = some i ∧ i.getRequest ty = .ok id := by
  constructor
  · intro hu
    obtain ⟨i, hi, hreq⟩ := mem_of_scan hu
    exact ⟨i, mem_entries.mp ((order.perm _).mem_iff.mp hi), hasRequest_iff.mp hreq⟩
  · rintro ⟨i, hi, hreq⟩
    refine scan_eq_some hi (hasRequest_iff.mpr hreq) (fun v j hj hrj => ?_) (order.perm _)
    exact (h.stored_distinct hlt hj hi (hasRequest_iff.mp hrj) hreq (by omega)).1

lemma correlates_of_inv (hlt : (drawnIds s.state.trace).length < 2 ^ 64) :
    Correlates s.state := by
  obtain ⟨hrange, hcount⟩ := h.drawn hlt
  refine ⟨h.nodup_drawn hlt, ?_, fun u v i j ty ty' id => h.stored_distinct hlt, ?_,
    fun order id ty u => h.answer_iff hlt order ty u, ?_, ?_⟩
  · rw [hrange, List.mem_range'_1]
    omega
  · intro u i ty id hi hreq
    rcases Nat.eq_zero_or_pos id with rfl | hid
    · omega
    · have hdrawn := (h.request_stored hlt hi hreq (by omega)).1
      rw [hrange, List.mem_range'_1] at hdrawn
      omega
  · intro order order' id ty hid
    rcases hu : s.state.handler.getActionRequestUUID order' id ty with _ | u
    · rw [Option.eq_none_iff_forall_ne_some]
      intro v hv
      rw [h.answer_iff hlt order ty v hid, ← h.answer_iff hlt order' ty v hid, hu] at hv
      cases hv
    · rwa [h.answer_iff hlt order ty u hid, ← h.answer_iff hlt order' ty u hid]
  · intro order id ty u hid hu
    obtain ⟨i, hi, hreq⟩ := (h.answer_iff hlt order ty u hid).mp hu
    exact h.request_stored hlt hi hreq (by omega)

end Correlates

/-- The identifier written into a sample is drawn for it, and the user is notified of it and
replies are sent under it only; in a step that writes none, none is notified. -/
def SampleIds (s : RequestSystem) : RequestOp → Prop
  | .addData env topic data =>
    ∃ new, (after (DdsEnabler.addData env topic data) s.state).trace = s.state.trace ++ new ∧
      ((∀ e ∈ new, e.sampleId = none) ∨
        ∃ id, .newRequestId id ∈ new ∧ .sentSequenceNumber id ∈ new ∧
          ∀ e ∈ new, ∀ id', e.sampleId = some id' → id' = id)
  | _ => True

lemma sampleIds (s : RequestSystem) (op : RequestOp) : SampleIds s op := by
  cases op with
  | addData env topic data =>
    rcases received_addData env data topic s.state with ⟨new, h⟩ | ⟨id, new, h, hnew⟩
    · refine ⟨new, h.trace, .inl fun e he => ?_⟩
      rcases hid : e.sampleId with _ | id
      · rfl
      · cases h.sample e he id hid
    · refine ⟨new, h.trace, .inr ⟨id, hnew List.mem_cons_self, ?_, ?_⟩⟩
      · exact hnew (List.mem_cons_of_mem _ List.mem_cons_self)
      · intro e he id' hid'
        exact (Option.some.inj (h.sample e he id' hid')).symm
  | _ => trivial

/-- **Request identifiers correlate.** In every run that draws fewer than `2 ^ 64` identifiers,
each is issued once and stored for one goal at most, and the goal of an identifier is found in
whatever order the map is visited. -/
theorem request_ids_correlate (participant : Participant)
    (schemas : Table Str (Nat × DynType)) (w : List RequestOp)
    (hw : (drawnIds (run step (start participant schemas) w).state.trace).length < 2 ^ 64) :
    Correlates (run step (start participant schemas) w).state ∧
      Along step SampleIds (start participant schemas) w := by
  have hinv : Inv (run step (start participant schemas) w) :=
    run_inv_all step_inv (inv_start participant schemas) w
  exact ⟨correlates_of_inv hinv hw, along_of_forall sampleIds _ w⟩

/-- A goal request, and then its result request, of the goal with the null identifier. -/
def goalRun : List RequestOp :=
  [.drawRequest [] .null .goal .ros2, .getNewRequestId, .storeRequest .silent 0,
    .drawRequest [] .null .result .ros2, .storeRequest .silent 0]

theorem request_ids_correlate_goal :
    Correlates (run step (start {} ∅) goalRun).state ∧ Along step SampleIds (start {} ∅) goalRun :=
  request_ids_correlate {} ∅ goalRun (by decide)

end RequestSystem

end DdsEnabler
