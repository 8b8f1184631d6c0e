import DdsEnabler.RequestIds

/-!
The life of a goal on the client: it ends when both a result and a final status have come in.

The two come on different topics, in any order and any number of times. The entry of the goal
is what the events replay, and it is gone if and only if both have happened.
-/

namespace DdsEnabler

open Exec Runs Tables

/-! ### The entry of a goal under events -/

/-- An entry for which something is still expected. -/
def ActionRequestInfo.IsOpen (i : ActionRequestInfo) : Prop :=
  ¬ (i.resultReceived = true ∧ i.finalStatusReceived = true)

/-- The goal is neither erased by force nor recorded anew. -/
def Undisturbed (u : UUID) (es : List Event) : Prop :=
  .erasedAction u .forced ∉ es ∧ ∀ a id p t, .storedRequest a u id .goal p t ∉ es

/-- What is left of an open entry `i` by events, among them a result or a final status: it is
gone when both have come in, and otherwise remembers which of them has. -/
def Remainder (i : ActionRequestInfo) (result final : Prop) : Option ActionRequestInfo → Prop
  | none => (i.resultReceived = true ∨ result) ∧ (i.finalStatusReceived = true ∨ final)
  | some j => j.actionName = i.actionName ∧ j.IsOpen ∧
      (j.resultReceived = true ↔ i.resultReceived = true ∨ result) ∧
      (j.finalStatusReceived = true ↔ i.finalStatusReceived = true ∨ final)

variable {u v : UUID} {i j : ActionRequestInfo}

lemma remainder_of_same {result final : Prop} (hi : i.IsOpen) (hr : ¬ result) (hf : ¬ final)
    (hname : j.actionName = i.actionName) (hres : j.resultReceived = i.resultReceived)
    (hfin : j.finalStatusReceived = i.finalStatusReceived) :
    Remainder i result final (some j) := by
  refine ⟨hname, ?_, by simp [hres, hr], by simp [hfin, hf]⟩
  rw [ActionRequestInfo.IsOpen, hres, hfin]
  exact hi

lemma storeEntry_open {actionName : Str} {id : Nat} {ty : ActionType} {p : Protocol} {t : Int}
    {result final : Prop} (hi : i.IsOpen) (hr : ¬ result) (hf : ¬ final) :
    Remainder i result final (Handler.storeEntry actionName id ty p t (some i)) := by
  simp only [Handler.storeEntry]
  split
  · exact remainder_of_same hi hr hf rfl rfl rfl
  · cases ty <;> exact remainder_of_same hi hr hf rfl rfl rfl

lemma eraseFlag_result (i : ActionRequestInfo) :
    Remainder i True False (Handler.eraseFlag .result i) := by
  rcases hf : i.finalStatusReceived
  · simp [Handler.eraseFlag, ActionRequestInfo.erase, Remainder, ActionRequestInfo.IsOpen, hf]
  · simp [Handler.eraseFlag, ActionRequestInfo.erase, Remainder, hf]

lemma eraseFlag_finalStatus (i : ActionRequestInfo) :
    Remainder i False True (Handler.eraseFlag .finalStatus i) := by
  rcases hr : i.resultReceived
  · simp [Handler.eraseFlag, ActionRequestInfo.erase, Remainder, ActionRequestInfo.IsOpen, hr]
  · simp [Handler.eraseFlag, ActionRequestInfo.erase, Remainder, hr]

lemma onEntry_open (hi : i.IsOpen) {e : Event} (he : Undisturbed u [e]) :
    Remainder i (e = .erasedAction u .result) (e = .erasedAction u .finalStatus)
      (e.onEntry u (some i)) := by
  cases e with
  | storedRequest a v id ty p t =>
    simp only [Event.onEntry]
    split
    · exact storeEntry_open hi (by simp) (by simp)
    · exact remainder_of_same hi (by simp) (by simp) rfl rfl rfl
  | resultSet v result =>
    simp only [Event.onEntry]
    split
    · have hset : (i.setResult result).2.actionName = i.actionName ∧
          (i.setResult result).2.resultReceived = i.resultReceived ∧
          (i.setResult result).2.finalStatusReceived = i.finalStatusReceived := by
        unfold ActionRequestInfo.setResult
        split
        · exact ⟨rfl, rfl, rfl⟩
        · exact ⟨rfl, rfl, rfl⟩
      exact remainder_of_same hi (by simp) (by simp) hset.1 hset.2.1 hset.2.2
    · exact remainder_of_same hi (by simp) (by simp) rfl rfl rfl
  | erasedAction v reason =>
    simp only [Event.onEntry]
    split
    · next huv =>
      subst huv
      cases reason with
      | finalStatus => simpa using eraseFlag_finalStatus i
      | result => simpa using eraseFlag_result i
      | forced => exact absurd List.mem_cons_self he.1
    · next huv =>
      have hne : ∀ r, Event.erasedAction v reason ≠ .erasedAction u r := by
        rintro r ⟨rfl, rfl⟩
        exact huv rfl
      exact remainder_of_same hi (hne _) (hne _) rfl rfl rfl
  | _ => exact remainder_of_same hi (by simp) (by simp) rfl rfl rfl

lemma replay_none {es : List Event} (hu : Undisturbed u es) : replay u es none = none := by
  induction es with
  | nil => rfl
  | cons e es ih =>
    have htail : Undisturbed u es :=
      ⟨fun h => hu.1 (List.mem_cons_of_mem _ h),
        fun a id p t h => hu.2 a id p t (List.mem_cons_of_mem _ h)⟩
    have hhead : e.onEntry u none = none := by
      cases e with
      | storedRequest a v id ty p t =>
        simp only [Event.onEntry]
        split
        · next huv =>
          subst huv
          by_cases hty : ty = .goal
          · subst hty
            exact absurd List.mem_cons_self (hu.2 a id p t)
          · simp [Handler.storeEntry, hty]
        · rfl
      | resultSet v result => simp [Event.onEntry]
      | erasedAction v reason => simp [Event.onEntry]
      | _ => rfl
    rw [replay_cons, hhead, ih htail]

/-- **The life of a goal.** Whatever happens, its entry is gone if and only if a result and a
final status have both come in, and says which of them has. -/
theorem replay_open (hi : i.IsOpen) {es : List Event} (hu : Undisturbed u es) :
    Remainder i (.erasedAction u .result ∈ es) (.erasedAction u .finalStatus ∈ es)
      (replay u es (some i)) := by
  induction es generalizing i with
  | nil => exact remainder_of_same hi (by simp) (by simp) rfl rfl rfl
  | cons e es ih =>
    have htail : Undisturbed u es :=
      ⟨fun h => hu.1 (List.mem_cons_of_mem _ h),
        fun a id p t h => hu.2 a id p t (List.mem_cons_of_mem _ h)⟩
    have hhead := onEntry_open hi (e := e) (u := u)
      ⟨fun h => hu.1 (List.mem_singleton.mp h ▸ List.mem_cons_self),
        fun a id p t h => hu.2 a id p t (List.mem_singleton.mp h ▸ List.mem_cons_self)⟩
    rw [replay_cons]
    simp only [List.mem_cons, eq_comm (b := e)]
    rcases hj : e.onEntry u (some i) with _ | j
    · rw [hj] at hhead
      rw [replay_none htail]
      exact ⟨hhead.1.imp_right .inl, hhead.2.imp_right .inl⟩
    · rw [hj] at hhead
      obtain ⟨hname, hopen, hres, hfin⟩ := hhead
      have ih := ih hopen htail
      rcases hk : replay u es (some j) with _ | k
      · rw [hk] at ih
        obtain ⟨h1, h2⟩ := ih
        rw [hres, or_assoc] at h1
        rw [hfin, or_assoc] at h2
        exact ⟨h1, h2⟩
      · rw [hk] at ih
        obtain ⟨hname', hopen', hres', hfin'⟩ := ih
        exact ⟨hname'.trans hname, hopen', by rw [hres', hres, or_assoc],
          by rw [hfin', hfin, or_assoc]⟩

lemma replay_eq_none (hi : i.IsOpen) {es : List Event} (hu : Undisturbed u es)
    (hr : i.resultReceived = false) (hf : i.finalStatusReceived = false) :
    replay u es (some i) = none ↔
      .erasedAction u .result ∈ es ∧ .erasedAction u .finalStatus ∈ es := by
  have h := replay_open hi hu
  rcases hj : replay u es (some i) with _ | j
  · rw [hj] at h
    simpa [Remainder, hr, hf] using h
  · rw [hj] at h
    obtain ⟨-, hopen, hres, hfin⟩ := h
    simp only [hr, hf, Bool.false_eq_true, false_or] at hres hfin
    rw [← hres, ← hfin]
    simpa [ActionRequestInfo.IsOpen] using hopen

/-- A result and a final status may come in either order. -/
lemma replay_swap (hi : i.IsOpen) {r r' : ActionEraseReason}
    (hr : r = .result ∧ r' = .finalStatus ∨ r = .finalStatus ∧ r' = .result)
    {es es' es'' : List Event}
    (hu : Undisturbed u (es ++ .erasedAction u r :: es' ++ .erasedAction u r' :: es''))
    {entry : UUID → Option ActionRequestInfo} (hentry : entry u = some i) (v : UUID) :
    replay v (es ++ .erasedAction u r :: es' ++ .erasedAction u r' :: es'') (entry v) =
      replay v (es ++ .erasedAction u r' :: es' ++ .erasedAction u r :: es'') (entry v) := by
  -- once both have come in, nothing is left in either order
  have key : ∀ l : List Event, Undisturbed u l → .erasedAction u .result ∈ l →
      .erasedAction u .finalStatus ∈ l → replay u l (some i) = none := by
    intro l hl hres hfin
    have h := replay_open hi hl
    rcases hj : replay u l (some i) with _ | j
    · rfl
    · rw [hj] at h
      obtain ⟨-, hopen, hres', hfin'⟩ := h
      exact absurd ⟨hres'.mpr (.inr hres), hfin'.mpr (.inr hfin)⟩ hopen
  by_cases hv : v = u
  · subst hv
    have hu' : Undisturbed v (es ++ .erasedAction v r' :: es' ++ .erasedAction v r :: es'') := by
      have hmem : ∀ e, e ∈ es ++ .erasedAction v r' :: es' ++ .erasedAction v r :: es'' →
          e ∈ es ++ .erasedAction v r :: es' ++ .erasedAction v r' :: es'' := by
        intro e he
        simp only [List.mem_append, List.mem_cons] at he ⊢
        tauto
      exact ⟨fun h => hu.1 (hmem _ h), fun a id p t h => hu.2 a id p t (hmem _ h)⟩
    rw [hentry]
    rcases hr with ⟨rfl, rfl⟩ | ⟨rfl, rfl⟩
    · rw [key _ hu (by simp) (by simp), key _ hu' (by simp) (by simp)]
    · rw [key _ hu (by simp) (by simp), key _ hu' (by simp) (by simp)]
  · simp [Event.onEntry, hv]

lemma onEntry_isOpen {e : Event} {o : Option ActionRequestInfo} (ho : ∀ i ∈ o, i.IsOpen) :
    ∀ j ∈ e.onEntry u o, j.IsOpen := by
  intro j hj
  by_cases hu : Undisturbed u [e]
  · rcases o with _ | i
    · rw [show e.onEntry u none = none from replay_none hu] at hj
      cases hj
    · have h := onEntry_open (ho i rfl) hu
      rw [Option.mem_def.mp hj] at h
      exact h.2.1
  · cases e with
    | storedRequest a v id ty p t =>
      simp only [Event.onEntry] at hj
      split at hj
      · rcases o with _ | i
        · simp only [Handler.storeEntry] at hj
          split at hj
          · cases hj
          · cases hj
            cases ty <;> simp [ActionRequestInfo.IsOpen, ActionRequestInfo.create,
              ActionRequestInfo.setRequest]
        · have h : Remainder i False False (Handler.storeEntry a id ty p t (some i)) :=
            storeEntry_open (ho i rfl) not_false not_false
          rw [Option.mem_def.mp hj] at h
          exact h.2.1
      · exact ho j hj
    | erasedAction v reason =>
      simp only [Event.onEntry] at hj
      split at hj
      · obtain ⟨i, rfl, hij⟩ := Option.bind_eq_some_iff.mp hj
        unfold Handler.eraseFlag at hij
        split at hij
        · cases hij
        · next hne =>
          cases hij
          intro hboth
          refine hne ?_
          simp only [ActionRequestInfo.erase] at hboth ⊢
          rw [Bool.and_eq_true]
          exact ⟨hboth.2, hboth.1⟩
      · exact ho j hj
    | _ => exact absurd ⟨by simp, by simp⟩ hu

lemma replay_isOpen {es : List Event} {o : Option ActionRequestInfo}
    (ho : ∀ i ∈ o, i.IsOpen) : ∀ j ∈ replay u es o, j.IsOpen := by
  induction es generalizing o with
  | nil => exact ho
  | cons e es ih => exact ih (onEntry_isOpen ho)

/-! ### Where results and final statuses come from -/

section Sources

variable {env : Env} {topic : DdsTopic} {data : Sample} {dynType : DynType} {s : State}
  {info : RpcInfo}

lemma writeActionResultNotification_run (env : Env) (msg : Message) (dynType : DynType)
    (u : UUID) (actionName : Str) (s : State) :
    ∃ es, (writeActionResultNotification env msg dynType u actionName).run s =
      .ok () (s.log es) ∧ ∀ e ∈ es, e.isPlain := by
  unfold writeActionResultNotification
  rcases msg.prepareJsonData env dynType with _ | json
  · exact ⟨[], by simp, by simp⟩
  · rcases env.callbacks.actionResultNotification
    · exact ⟨[], by simp, by simp⟩
    · exact ⟨_, notify_true_run .., by simp [Event.isPlain]⟩

/-- **A result reply** that is matched to a goal is a result for that goal, and for no other. -/
theorem result_reply_erases (h : data.Accepted topic dynType s) (hrpc : data.isRpc = true)
    (hinfo : RpcInfo.ofTopic topic.topicName = info) (hrpcType : info.rpcType = .action)
    (hservice : info.serviceType = .reply) (haction : info.actionType = .result) {g : UUID}
    (hg : s.handler.getActionRequestUUID env.visitOrder data.relatedSequenceNumber .result =
      some g) :
    ∃ t es, (addData env topic data).run s = .ok () t ∧
      t.trace = s.trace ++ (es ++ [.erasedAction g .result]) ∧ ∀ e ∈ es, e.isPlain := by
  obtain ⟨es, hwrite, hes⟩ := writeActionResultNotification_run env (data.message topic) dynType g
    info.actionName s.count
  have hg' : s.count.handler.getActionRequestUUID env.visitOrder data.relatedSequenceNumber
      .result = some g := hg
  refine ⟨{ s.count.log es with handler := s.count.handler.eraseActionUUID g .result }.log
    [.erasedAction g .result], es, ?_, by simp, hes⟩
  rw [addData_run h, hinfo]
  simp only [addKnownData, hrpcType, addActionData, hservice, haction, addResultReply,
    relatedRequestId, requireRpc, hrpc, if_true, pure_bind, EStateM.run_bind, readHandler_run,
    hg', hwrite, Option.getD_some, eraseActionUUID_run, log_handler]

lemma isUUIDActive_congr {h h' : Handler} {actionName : Str} {g : UUID}
    (hg : h.entry g = h'.entry g) : h.isUUIDActive actionName g = h'.isUUIDActive actionName g := by
  simp only [Handler.isUUIDActive, Handler.activeInfo, hg]

lemma writeStatusList_cons (env : Env) (msg : Message) (actionName : Str) {j : Json}
    {u : UUID} {code : StatusCode} (hu : statusUuid j = .ok u) (hc : statusCodeOf j = .ok code)
    (l : List Json) (s : State) :
    ∃ t es, (writeStatusList env msg actionName (j :: l)).run s =
        (writeStatusList env msg actionName l).run t ∧
      t.trace = s.trace ++ es ∧
      (∀ g r, .erasedAction g r ∈ es ↔ g = u ∧ r = .finalStatus ∧
        s.handler.isUUIDActive actionName u = true ∧ code.isFinal = true) ∧
      ∀ g, g ≠ u ∨ code.isFinal = false → t.handler.entry g = s.handler.entry g := by
  have hu' : catchJson ((statusUuid j).map some) none = .ok (some u) := by rw [hu]; rfl
  have hc' : catchJson ((statusCodeOf j).map some) none = .ok (some code) := by rw [hc]; rfl
  have hnotify : ∀ t : State, ∃ es, (notifyStatus env msg actionName u code
      (statusMessage code)).run t = .ok () (t.log es) ∧ ∀ g r, .erasedAction g r ∉ es := by
    intro t
    unfold notifyStatus
    rcases env.callbacks.actionStatusNotification
    · exact ⟨[], by simp, by simp⟩
    · exact ⟨_, notify_true_run .., by simp⟩
  rcases ha : s.handler.isUUIDActive actionName u
  · exact ⟨s, [], by simp [writeStatusList, hu', ha], by simp, by simp, fun g _ => rfl⟩
  · rcases hfin : code.isFinal
    · obtain ⟨es, hrun, hes⟩ := hnotify s
      refine ⟨s.log es, es, ?_, rfl, by simp [hes], fun g _ => rfl⟩
      simp [writeStatusList, hu', ha, hc', hfin, hrun]
    · let t := { s with handler := s.handler.eraseActionUUID u .finalStatus }.log
        [.erasedAction u .finalStatus]
      obtain ⟨es, hrun, hes⟩ := hnotify t
      refine ⟨t.log es, .erasedAction u .finalStatus :: es, ?_, by simp [t], ?_, ?_⟩
      · simp [writeStatusList, hu', ha, hc', hfin, hrun, t]
      · intro g r
        simp [hes]
      · intro g hg
        have hne : g ≠ u := by simpa using hg
        simp [t, Handler.entry_eraseActionUUID, hne]

lemma writeStatusList_erases (env : Env) (msg : Message) (actionName : Str) {l : List Json}
    {pairs : List (UUID × StatusCode)}
    (hl : List.Forall₂ (fun j p => statusUuid j = .ok p.1 ∧ statusCodeOf j = .ok p.2) l pairs)
    (s : State) :
    ∃ t new, (writeStatusList env msg actionName l).run s = .ok () t ∧
      t.trace = s.trace ++ new ∧
      (∀ g r, .erasedAction g r ∈ new →
        r = .finalStatus ∧ ∃ c, (g, c) ∈ pairs ∧ c.isFinal = true) ∧
      ∀ g c, s.handler.isUUIDActive actionName g = true → (g, c) ∈ pairs → c.isFinal = true →
        .erasedAction g .finalStatus ∈ new := by
  induction hl generalizing s with
  | nil => exact ⟨s, [], rfl, by simp, by simp, by simp⟩
  | @cons j p l pairs hj hl ih =>
    obtain ⟨u, code⟩ := p
    obtain ⟨t, es, hrun, htrace, hes, hentry⟩ :=
      writeStatusList_cons env msg actionName hj.1 hj.2 l s
    obtain ⟨t', new, hrun', htrace', honly, hall⟩ := ih t
    refine ⟨t', es ++ new, hrun.trans hrun', by rw [htrace', htrace, List.append_assoc], ?_, ?_⟩
    · intro g r hmem
      rcases List.mem_append.mp hmem with hmem | hmem
      · obtain ⟨rfl, rfl, -, hfin⟩ := (hes g r).mp hmem
        exact ⟨rfl, code, List.mem_cons_self, hfin⟩
      · obtain ⟨hr, c, hc, hfin⟩ := honly g r hmem
        exact ⟨hr, c, List.mem_cons_of_mem _ hc, hfin⟩
    · intro g c hactive hmem hfin
      by_cases hg : g = u ∧ code.isFinal = true
      · obtain ⟨rfl, hcode⟩ := hg
        exact List.mem_append_left _ ((hes g .finalStatus).mpr ⟨rfl, rfl, hactive, hcode⟩)
      · have hsame : t.handler.entry g = s.handler.entry g := by
          refine hentry g ?_
          by_cases hgu : g = u
          · exact .inr (by simpa [hgu] using hg)
          · exact .inl hgu
        have hactive' : t.handler.isUUIDActive actionName g = true := by
          rw [isUUIDActive_congr hsame, hactive]
        rcases List.mem_cons.mp hmem with hhead | hmem
        · obtain ⟨rfl, rfl⟩ := Prod.mk.inj hhead
          exact absurd ⟨rfl, hfin⟩ hg
        · exact List.mem_append_right _ (hall g c hactive' hmem hfin)

/-- **A status message** whose entries are readable is a final status for the active goals that
it lists with a terminal code, and for no other. -/
theorem status_message_erases (h : data.Accepted topic dynType s)
    (hinfo : RpcInfo.ofTopic topic.topicName = info) (hrpcType : info.rpcType = .action)
    (hservice : info.serviceType = .none) (haction : info.actionType = .status) {d list : Json}
    (hd : env.decode dynType data.payload = some d)
    (hlist : d.index "status_list".toList = .ok list) {pairs : List (UUID × StatusCode)}
    (hl : List.Forall₂ (fun j p => statusUuid j = .ok p.1 ∧ statusCodeOf j = .ok p.2)
      list.elements pairs) :
    ∃ t new, (addData env topic data).run s = .ok () t ∧ t.trace = s.trace ++ new ∧
      (∀ g r, .erasedAction g r ∈ new →
        r = .finalStatus ∧ ∃ c, (g, c) ∈ pairs ∧ c.isFinal = true) ∧
      ∀ g c, s.handler.isUUIDActive info.actionName g = true → (g, c) ∈ pairs →
        c.isFinal = true → .erasedAction g .finalStatus ∈ new := by
  obtain ⟨t, new, hrun, hrest⟩ :=
    writeStatusList_erases env (data.message topic) info.actionName hl s.count
  refine ⟨t, new, ?_, hrest⟩
  have hprep : (data.message topic).prepareJsonData env dynType =
      some ((data.message topic).wrap d) := by
    rw [Message.prepareJsonData, show (data.message topic).payload = data.payload from rfl, hd,
      Option.map_some]
  have hlist' : catchJson ((((data.message topic).dataOf ((data.message topic).wrap d)).bind
      (·.index "status_list".toList)).map some) none = .ok (some list) := by
    rw [Message.dataOf_wrap]
    change catchJson ((d.index "status_list".toList).map some) none = _
    rw [hlist]
    rfl
  rw [addData_run h, hinfo]
  simp only [addKnownData, hrpcType, addActionData, hservice, haction,
    writeActionStatusNotification, hprep, hlist', lift_ok, pure_bind, hrun]

end Sources

/-! ### Runs -/

namespace RequestSystem

lemma step_replays (s : RequestSystem) (op : RequestOp) :
    ∃ new, (s.step op).state.trace = s.state.trace ++ new ∧
      ∀ u, (s.step op).state.handler.entry u = replay u new (s.state.handler.entry u) := by
  have of_evolves : ∀ {o t}, Evolves o s.state t → ∃ new, t.trace = s.state.trace ++ new ∧
      ∀ u, t.handler.entry u = replay u new (s.state.handler.entry u) := by
    rintro o t ⟨new, h⟩
    exact ⟨new, h.trace, h.entry⟩
  cases op with
  | getNewRequestId => exact of_evolves (keeps_draw (o := none) s.state)
  | drawRequest actionName actionId actionType protocol =>
    exact of_evolves (keeps_draw (o := none) s.state)
  | storeRequest env k =>
    simp only [step]
    rcases s.pending[k]? with _ | r
    · exact ⟨[], by simp, fun u => rfl⟩
    · obtain ⟨new, h, -⟩ := effect_store env r.actionName r.actionId r.requestId r.actionType
        r.protocol s.state
      exact ⟨new, h.trace, h.entry⟩
  | dropRequest k => exact ⟨[], by simp [step], fun u => rfl⟩
  | addData env topic data =>
    obtain ⟨o, ho⟩ := received_evolves (received_addData env data topic s.state)
    exact of_evolves ho
  | sendActionResult env actionName goalId statusCode json =>
    obtain ⟨o, ho⟩ := evolves_sendActionResult env actionName goalId statusCode json s.state
    exact of_evolves ho
  | eraseActionUUID actionId reason =>
    exact of_evolves (keeps_erase (o := none) actionId reason s.state)
  | others participant schemas => exact ⟨[], by simp [step], fun u => rfl⟩

lemma run_replays (s : RequestSystem) (w : List RequestOp) :
    ∃ new, (run step s w).state.trace = s.state.trace ++ new ∧
      ∀ u, (run step s w).state.handler.entry u = replay u new (s.state.handler.entry u) := by
  induction w generalizing s with
  | nil => exact ⟨[], by simp, fun u => rfl⟩
  | cons op w ih =>
    obtain ⟨new, htrace, hentry⟩ := step_replays s op
    obtain ⟨new', htrace', hentry'⟩ := ih (s.step op)
    refine ⟨new ++ new', ?_, fun u => ?_⟩
    · rw [run_cons, htrace', htrace, List.append_assoc]
    · rw [run_cons, hentry', hentry, replay_append]

/-- No entry is left for which nothing is expected. -/
def EntriesOpen (s : RequestSystem) : Prop :=
  ∀ u i, s.state.handler.entry u = some i → i.IsOpen

lemma run_entriesOpen (participant : Participant) (schemas : Table Str (Nat × DynType))
    (w : List RequestOp) : EntriesOpen (run step (start participant schemas) w) := by
  intro u i hi
  obtain ⟨new, -, hentry⟩ := run_replays (start participant schemas) w
  rw [hentry] at hi
  have hnone : (start participant schemas).state.handler.entry u = none := by
    simp [start, Handler.entry]
  rw [hnone] at hi
  exact replay_isOpen (by simp) i hi

lemma entry_of_stored {env : Env} {actionName : Str} {g : UUID} {id : Nat} {p : Protocol}
    {s t : State} (h : (storeActionRequest env actionName g id .goal p).run s = .ok true t) :
    t.handler.entry g = some (.create actionName .goal id p env.now) := by
  rcases hb : (s.handler.storeActionRequest actionName g id .goal p env.now).1
  · rw [storeActionRequest_run_false s env hb] at h
    cases h
  · rw [storeActionRequest_run_true s env hb] at h
    cases h
    change (s.handler.storeActionRequest actionName g id .goal p env.now).2.entry g = _
    rw [Handler.entry_storeActionRequest, if_pos rfl]
    rcases hg : s.handler.entry g with _ | i
    · simp [Handler.storeEntry]
    · by_cases hn : i.actionName = actionName
      · simp [Handler.storeActionRequest, hg, hn] at hb
      · simp [Handler.storeActionRequest, hg, hn] at hb

lemma isUUIDActive_iff {h : Handler} {actionName : Str} {g : UUID} :
    h.isUUIDActive actionName g = true ↔ ∃ i, h.entry g = some i ∧ i.actionName = actionName := by
  unfold Handler.isUUIDActive Handler.activeInfo
  rcases h.entry g with _ | i
  · simp
  · by_cases hn : actionName = i.actionName
    · simp [Option.filter, hn]
    · simp [Option.filter, hn, eq_comm (a := i.actionName)]

/-- Unless the goal is erased by force or recorded again between `t` and `t'`, it is active in
`t'` if and only if not both a result and a final status have come in for it, and swapping the
two changes no entry of the map. -/
def EndsWithBoth (actionName : Str) (g : UUID) (t t' : State) : Prop :=
  ∃ new, t'.trace = t.trace ++ new ∧ (Undisturbed g new →
    (t'.handler.isUUIDActive actionName g = true ↔
      ¬ (.erasedAction g .result ∈ new ∧ .erasedAction g .finalStatus ∈ new)) ∧
    ∀ es es' es'' r r', (r = .result ∧ r' = .finalStatus ∨ r = .finalStatus ∧ r' = .result) →
      new = es ++ .erasedAction g r :: es' ++ .erasedAction g r' :: es'' →
      ∀ v, t'.handler.entry v =
        replay v (es ++ .erasedAction g r' :: es' ++ .erasedAction g r :: es'')
          (t.handler.entry v))

/-- **The lifetime of a goal does not depend on the order of events.** After a goal is
recorded, every run leaves it active until both a result and a final status have come in. In
every state reached, an entry is there only while one of them is missing. -/
theorem goal_lifetime (env : Env) (actionName : Str) (g : UUID) (id : Nat) (p : Protocol)
    (s t : State) (h : (storeActionRequest env actionName g id .goal p).run s = .ok true t)
    (pending : List PendingRequest) (w : List RequestOp) :
    EndsWithBoth actionName g t (run step ⟨t, pending⟩ w).state ∧
      ∀ participant schemas, EntriesOpen (run step (start participant schemas) w) := by
  refine ⟨?_, fun participant schemas => run_entriesOpen participant schemas w⟩
  obtain ⟨new, htrace, hentry⟩ := run_replays ⟨t, pending⟩ w
  have hg := entry_of_stored h
  set i := ActionRequestInfo.create actionName .goal id p env.now with hi
  have hopen : i.IsOpen := by
    simp [hi, ActionRequestInfo.IsOpen, ActionRequestInfo.create, ActionRequestInfo.setRequest]
  refine ⟨new, htrace, fun hu => ⟨?_, ?_⟩⟩
  · rw [isUUIDActive_iff, hentry, hg]
    have hnone := replay_eq_none hopen hu rfl rfl
    have hrem := replay_open hopen hu
    rcases hj : replay g new (some i) with _ | j
    · simpa using hnone.mp hj
    · rw [hj] at hrem
      have hlive : ¬ (.erasedAction g .result ∈ new ∧ .erasedAction g .finalStatus ∈ new) := by
        rw [← hnone, hj]
        simp
      exact ⟨fun _ => hlive, fun _ => ⟨j, rfl, hrem.1⟩⟩
  · rintro es es' es'' r r' hr rfl v
    rw [hentry]
    exact replay_swap hopen hr hu hg v

/-- The goal with the null identifier, recorded in an empty map; both of its ends come in. -/
theorem goal_lifetime_both :
    EndsWithBoth [] .null (after (storeActionRequest .silent [] .null 1 .goal .ros2) {})
        (run step ⟨after (storeActionRequest .silent [] .null 1 .goal .ros2) {}, []⟩
          [.eraseActionUUID .null .result, .eraseActionUUID .null .finalStatus]).state ∧
      ∀ participant schemas, EntriesOpen (run step (start participant schemas)
        [.eraseActionUUID .null .result, .eraseActionUUID .null .finalStatus]) :=
  goal_lifetime .silent [] .null 1 .ros2 {} _ rfl [] _

end RequestSystem

end DdsEnabler
