import DdsEnabler.Genuine

/-!
What is on record of a goal.

A record only grows as long as there is one, and it ends in one of two ways: the result and the last
status have both come, or it is erased by force. All that it says is accounted for: a user has sent
the goal, and a server has accepted it if the result is asked for, or it is the client that has been
told so.
-/

namespace DdsEnabler

open Exec Runs Provenance RpcUtils

-- for the run that the witnesses evaluate
set_option maxRecDepth 1000

/-! ### Records grow -/

/-- The later record of a goal says what the earlier one says, and may say more. -/
structure Continues (i j : ActionRequestInfo) : Prop where
  actionName : j.actionName = i.actionName
  protocol : j.protocol = i.protocol
  goalRequestId : j.goalRequestId = i.goalRequestId
  goalAcceptedStamp : j.goalAcceptedStamp = i.goalAcceptedStamp
  result : i.result.isEmpty = false → j.result = i.result
  resultReceived : i.resultReceived → j.resultReceived
  finalStatusReceived : i.finalStatusReceived → j.finalStatusReceived

/-- Nothing is left to wait for once the reason is there, too. -/
def ActionRequestInfo.EndsBy (i : ActionRequestInfo) : ActionEraseReason → Prop
  | .result => i.finalStatusReceived
  | .finalStatus => i.resultReceived
  | .forced => True

/-- One of the events ends the record, which has grown until then. -/
def EndsIn (u : UUID) (i : ActionRequestInfo) (es : List Event) : Prop :=
  ∃ es' j reason rest, es = es' ++ .erasedAction u reason :: rest ∧
    replay u es' (some i) = some j ∧ Continues i j ∧ j.EndsBy reason

section Continues

variable {u : UUID} {i j k : ActionRequestInfo} {e : Event} {es : List Event}

lemma Continues.refl (i : ActionRequestInfo) : Continues i i :=
  ⟨rfl, rfl, rfl, rfl, fun _ => rfl, id, id⟩

lemma Continues.trans (h : Continues i j) (h' : Continues j k) : Continues i k where
  actionName := h'.actionName.trans h.actionName
  protocol := h'.protocol.trans h.protocol
  goalRequestId := h'.goalRequestId.trans h.goalRequestId
  goalAcceptedStamp := h'.goalAcceptedStamp.trans h.goalAcceptedStamp
  result hi := by
    rw [h'.result (by rw [h.result hi]; exact hi), h.result hi]
  resultReceived hi := h'.resultReceived (h.resultReceived hi)
  finalStatusReceived hi := h'.finalStatusReceived (h.finalStatusReceived hi)

lemma continues_setRequest {ty : ActionType} (n : Nat) (hty : ty ≠ .goal) :
    Continues i (i.setRequest n ty) := by
  cases ty with
  | goal => exact absurd rfl hty
  | _ => exact ⟨rfl, rfl, rfl, rfl, fun _ => rfl, id, id⟩

lemma continues_setResult (result : JsonText) : Continues i (i.setResult result).2 := by
  unfold ActionRequestInfo.setResult
  split
  · exact .refl i
  · next h =>
    refine ⟨rfl, rfl, rfl, rfl, fun hi => ?_, id, id⟩
    simp only [Bool.or_eq_true, Bool.not_eq_true'] at h
    exact absurd (.inr hi) h

lemma continues_erase (reason : ActionEraseReason) : Continues i (i.erase reason).2 := by
  cases reason with
  | finalStatus => exact ⟨rfl, rfl, rfl, rfl, fun _ => rfl, id, fun _ => rfl⟩
  | result => exact ⟨rfl, rfl, rfl, rfl, fun _ => rfl, fun _ => rfl, id⟩
  | forced => exact ⟨rfl, rfl, rfl, rfl, fun _ => rfl, fun _ => rfl, fun _ => rfl⟩

lemma endsBy_of_erase {reason : ActionEraseReason} (h : (i.erase reason).1 = true) :
    i.EndsBy reason := by
  cases reason with
  | finalStatus => simpa [ActionRequestInfo.erase, ActionRequestInfo.EndsBy] using h
  | result => simpa [ActionRequestInfo.erase, ActionRequestInfo.EndsBy] using h
  | forced => trivial

lemma onEntry_cases (e : Event) (i : ActionRequestInfo) :
    (∃ j, e.onEntry u (some i) = some j ∧ Continues i j) ∨
      ∃ reason, e = .erasedAction u reason ∧ i.EndsBy reason := by
  cases e with
  | storedRequest a v n ty p t =>
    simp only [Event.onEntry, Handler.storeEntry]
    split
    · split
      · exact .inl ⟨i, rfl, .refl i⟩
      · next hnot =>
        exact .inl ⟨_, rfl, continues_setRequest n fun hty => hnot (.inr hty)⟩
    · exact .inl ⟨i, rfl, .refl i⟩
  | resultSet v result =>
    simp only [Event.onEntry]
    split
    · exact .inl ⟨_, rfl, continues_setResult result⟩
    · exact .inl ⟨i, rfl, .refl i⟩
  | erasedAction v reason =>
    simp only [Event.onEntry, Option.bind_some, Handler.eraseFlag]
    split
    · next hv =>
      subst hv
      split
      · next hdone => exact .inr ⟨reason, rfl, endsBy_of_erase hdone⟩
      · exact .inl ⟨_, rfl, continues_erase reason⟩
    · exact .inl ⟨i, rfl, .refl i⟩
  | _ => exact .inl ⟨i, rfl, .refl i⟩

lemma replay_cases (es : List Event) (i : ActionRequestInfo) :
    (∃ j, replay u es (some i) = some j ∧ Continues i j) ∨ EndsIn u i es := by
  induction es generalizing i with
  | nil => exact .inl ⟨i, rfl, .refl i⟩
  | cons e es ih =>
    rcases onEntry_cases (u := u) e i with ⟨j, hj, hcont⟩ | ⟨reason, rfl, hends⟩
    · rw [replay_cons, hj]
      rcases ih j with ⟨k, hk, hcont'⟩ | ⟨es', k, reason, rest, rfl, hk, hcont', hends⟩
      · exact .inl ⟨k, hk, hcont.trans hcont'⟩
      · refine .inr ⟨e :: es', k, reason, rest, rfl, ?_, hcont.trans hcont', hends⟩
        rw [replay_cons, hj, hk]
    · exact .inr ⟨[], i, reason, es, rfl, rfl, .refl i, hends⟩

lemma created_of_onEntry (h : e.onEntry u none = some j) :
    ∃ n p t, e = .storedRequest j.actionName u n .goal p t := by
  cases e with
  | storedRequest a v n ty p t =>
    simp only [Event.onEntry, Handler.storeEntry] at h
    split at h
    · next hv =>
      split at h
      · cases h
      · next hty =>
        cases h
        rw [ne_eq, not_not] at hty
        exact ⟨n, p, t, by rw [hv, hty]; rfl⟩
    · cases h
  | resultSet v result => simp [Event.onEntry] at h
  | erasedAction v reason => simp [Event.onEntry] at h
  | _ => cases h

lemma created_of_replay {o : Option ActionRequestInfo} (h : replay u es o = some j) :
    (∃ i, o = some i ∧ i.actionName = j.actionName) ∨
      ∃ n p t, .storedRequest j.actionName u n .goal p t ∈ es := by
  induction es generalizing o with
  | nil => exact .inl ⟨j, h, rfl⟩
  | cons e es ih =>
    rw [replay_cons] at h
    rcases ih h with ⟨k, hk, hname⟩ | ⟨n, p, t, he⟩
    · rcases o with _ | i
      · obtain ⟨n, p, t, rfl⟩ := created_of_onEntry hk
        exact .inr ⟨n, p, t, hname ▸ List.mem_cons_self⟩
      · exact .inl ⟨i, rfl, (actionName_onEntry hk).symm.trans hname⟩
    · exact .inr ⟨n, p, t, List.mem_cons_of_mem _ he⟩

end Continues

namespace Network

variable {ι : Type} [DecidableEq ι]

lemma trace_run (N : Network ι) (w : List (NetOp ι)) (i : ι) :
    ∃ es, (run step N w i).state.trace = (N i).state.trace ++ es := by
  induction w generalizing N with
  | nil => exact ⟨[], (List.append_nil _).symm⟩
  | cons op w ih =>
    obtain ⟨es, hes⟩ := trace_step N op i
    obtain ⟨es', hes'⟩ := ih (N.step op)
    exact ⟨es ++ es', by rw [run_cons, hes', hes, List.append_assoc]⟩

/-- **Records only grow.** Whatever happens in a network, a goal that a party has on record stays
there, and says no less than before, until an event ends it: the result and the last status have
both come, or the goal is erased by force. -/
theorem records_kept {w w' : List (NetOp ι)} (hw : Along step Fits start (w ++ w'))
    (hlt : Within (run step start (w ++ w'))) {i : ι} {u : UUID} {a : ActionRequestInfo}
    (ha : (run step start w i).state.handler.entry u = some a) :
    (∃ b, (run step start (w ++ w') i).state.handler.entry u = some b ∧ Continues a b) ∨
      EndsIn u a (newEvents (run step start w i).state (run step start (w ++ w') i).state) := by
  have hinv := inv_run hw hlt
  have hwithin : Within (run step start w) := by
    rw [run_append] at hlt
    exact (along_of_run within_of_step hlt).1
  have hbefore := ((inv_run ((along_append start w w').mp hw).1 hwithin).sound i).books.entry u
  have hafter := (hinv.sound i).books.entry u
  simp only at hbefore hafter
  obtain ⟨es, hes⟩ := trace_run (run step start w) w' i
  rw [← run_append] at hes
  rw [newEvents_eq hes]
  rw [hes, replay_append, ← hbefore, ha] at hafter
  rcases replay_cases (u := u) es a with ⟨b, hb, hcont⟩ | hend
  · exact .inl ⟨b, hafter.trans hb, hcont⟩
  · exact .inr hend

lemma exchange_split : exchange.take 5 ++ exchange.drop 5 = exchange := List.take_append_drop ..

theorem records_kept_exchange :
    (∃ b, (run step start (exchange.take 5 ++ exchange.drop 5) true).state.handler.entry .null =
      some b ∧ Continues (.create Rendezvous.fibonacci .goal 1 .ros2 0) b) ∨
      EndsIn .null (.create Rendezvous.fibonacci .goal 1 .ros2 0)
        (newEvents (run step start (exchange.take 5) true).state
          (run step start (exchange.take 5 ++ exchange.drop 5) true).state) :=
  records_kept (by rw [exchange_split]; exact exchange_fits)
    (by rw [exchange_split]; exact exchange_within) rfl

/-! ### What a record comes from -/

/-- The user of the party has sent the goal. -/
def GoalSent (w : List (NetOp ι)) (i : ι) (actionName : Str) (u : UUID) : Prop :=
  ∃ json protocol, .act i (.draw (.goal actionName json u protocol)) ∈ w

/-- The party has received, under the identifier, a request of the other party for the goal. -/
def AskedBy (N : Network ι) (i : ι) (n : Nat) (j : ι) (u : UUID) : Prop :=
  ∃ r t doc, N.Receives i n j r t doc ∧ goalOf doc = .ok u

/-- All that the record of a goal says is accounted for. -/
structure AccountedFor (w : List (NetOp ι)) (N : Network ι) (i : ι) (u : UUID)
    (a : ActionRequestInfo) : Prop where
  goal : GoalSent w i a.actionName u ∨ ∃ j n, N.AskedBy i n j u ∧ GoalSent w j a.actionName u
  asked : a.resultRequestId ≠ 0 → (∃ j, Decision w N i j a.actionName u true) ∨
    ∃ k j, N.AskedBy i a.resultRequestId k u ∧ Decision w N k j a.actionName u true
  result : a.result.isEmpty = false → Supplied w i a.actionName u a.result

/-- **Records are genuine.** A goal on record has been sent, by the party's own user or by one whose
request the party has received; where its result has been asked for, a server has accepted it; and
its result is what the party's user has supplied. -/
theorem records_genuine {w : List (NetOp ι)} (hw : Along step Fits start w)
    (hlt : Within (run step start w)) {i : ι} {u : UUID} {a : ActionRequestInfo}
    (ha : (run step start w i).state.handler.entry u = some a) :
    AccountedFor w (run step start w) i u a := by
  have h := inv_run hw hlt
  set N := run step start w
  have hreplay : replay u (N i).state.trace none = some a := by
    rw [← (h.sound i).books.entry u]
    exact ha
  refine ⟨?_, ?_, (h.sound i).results u a ha⟩
  · rcases created_of_replay hreplay with ⟨i', hi', -⟩ | ⟨n, p, time, he⟩
    · cases hi'
    · have hcause : Cause w N i (.storedRequest a.actionName u n .goal p time) :=
        h.justified i _ he
      generalize hevent : Event.storedRequest a.actionName u n .goal p time = e at hcause
      cases hcause
      case sentRecord hwhy =>
        cases hevent
        cases hwhy with
        | goal hop => exact .inl ⟨_, _, hop⟩
      case receivedRecord j n' r asked doc u' ty p' time' hreceives hpart hu =>
        injection hevent with hname hu' hn hty
        subst hu' hn hty
        obtain ⟨json, protocol, -, hop⟩ := h.goalSent hreceives.published hpart hu
        exact .inr ⟨j, n, ⟨r, asked, doc, hreceives, hu⟩, json, protocol, hname ▸ hop⟩
      all_goals cases hevent
      next hinternal => cases hinternal
  · intro hasked
    have hresult : a.getRequest .result = .ok _ := rfl
    rcases record_of_replay hreplay hresult hasked with ⟨i', hi', -⟩ | ⟨p, time, he⟩
    · cases hi'
    · have hcause : Cause w N i (.storedRequest a.actionName u a.resultRequestId .result p time) :=
        h.justified i _ he
      generalize hevent :
        Event.storedRequest a.actionName u a.resultRequestId .result p time = e at hcause
      cases hcause
      case sentRecord hwhy =>
        injection hevent with hname hu hn hty
        subst hname hu hty
        cases hwhy with
        | result hd =>
          obtain ⟨j, b, hb, hdecision⟩ := h.decision hlt hd
          cases hb
          exact .inl ⟨j, hdecision⟩
      case receivedRecord k n' r asked doc u' ty p' time' hreceives hpart hu =>
        injection hevent with hname hu' hn hty
        subst hu' hn hty
        have hrequest := h.partRequest hreceives.published hpart
        rw [← hname] at hrequest
        cases hrequest with
        | @result v hd =>
          obtain rfl : v = u := Except.ok.inj ((jsonToUuid_uuidJson v).symm.trans hu)
          obtain ⟨j, b, hb, hdecision⟩ := h.decision hlt hd
          cases hb
          exact .inr ⟨k, j, ⟨r, asked, _, hreceives, hu⟩, hdecision⟩
      all_goals cases hevent
      next hinternal => cases hinternal

theorem records_genuine_exchange :
    AccountedFor exchange (run step start exchange) true .null
      { ActionRequestInfo.create Rendezvous.fibonacci .goal 1 .ros2 0 with
        resultRequestId := 2, resultReceived := true } :=
  records_genuine exchange_fits exchange_within rfl

end Network

end DdsEnabler
