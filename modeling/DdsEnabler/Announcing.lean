import DdsEnabler.Protocols
import DdsEnabler.Lib.Contention

/-!
Announcements of one name by several clients at once.

An announcement holds the mutex but for the wait in `create_topic_writer_nts_`, so it runs in
pieces, between which everything else may run. That the name is free is checked in the first
piece, and the entry is made in the last. So two calls can find the name free, and then both
return true: the entry of the second replaces that of the first, with an endpoint each. Of a
service, one call at most returns true as long as no call begins while another one waits, unless
something turns it away.
-/

namespace DdsEnabler

open Exec Runs Tables Contention

/-! ### Calls in pieces -/

/-- A call of `announce_service` or of `announce_action`. What it waits for is a `ω`, and what it
has built a `β`. -/
inductive Call (ω β : Type)
  | idle
  /-- In the wait of `create_topic_writer_nts_`. -/
  | waiting (w : ω)
  /-- It has returned false, or thrown. -/
  | failed
  /-- It has returned true: the enabler serves the entry that was there. -/
  | flagged
  /-- It has returned true: it has entered what it has built. -/
  | built (b : β)

namespace Call

variable {ω β : Type}

/-- What the call has returned. -/
def answer : Call ω β → Bool
  | .flagged | .built _ => true
  | _ => false

/-- The call has found the name free, and has not failed. -/
def Engaged (c : Call ω β) : Prop := (∃ w, c = .waiting w) ∨ c.answer = true

@[simp] lemma not_engaged_idle : ¬ (idle : Call ω β).Engaged := by simp [Engaged, answer]
@[simp] lemma not_engaged_failed : ¬ (failed : Call ω β).Engaged := by simp [Engaged, answer]
@[simp] lemma engaged_waiting (w : ω) : (waiting w : Call ω β).Engaged := .inl ⟨w, rfl⟩
@[simp] lemma engaged_flagged : (flagged : Call ω β).Engaged := .inr rfl
@[simp] lemma engaged_built (b : β) : (built b : Call ω β).Engaged := .inr rfl

end Call

/-- The two pieces of an announcement: up to the first wait, and from a wait to the next. A wait may
be over as soon as it begins; when it has timed out, the reader is looked for a last time. -/
structure Announcement (ω β : Type) where
  start : Env → Protocol → M (Call ω β)
  wake : Env → Bool → ω → M (Call ω β)

/-- The discovery thread may create the reader of a simulated endpoint. -/
def awaitReader (env : Env) (topic : DdsTopic) : M Unit :=
  if env.readerCreated topic then discard <| createReader env { topic with discoverer := env.id }
  else pure ()

lemma createTopicWriter_eq (env : Env) (topic : DdsTopic) :
    createTopicWriter env topic = (do
      let edp ← onParticipant (·.simulateEndpoint topic)
      awaitReader env topic
      let reader ← readParticipant (·.lookupReader topic.topicName)
      return (edp, reader)) := by
  unfold createTopicWriter awaitReader
  refine bind_congr fun edp => ?_
  rcases env.readerCreated topic
  · rfl
  · rfl

/-- The wait of a call with nobody else about: the reader may be created, and is looked for. -/
def Announcement.await {ω β : Type} (a : Announcement ω β) (awaited : ω → DdsTopic) (env : Env) :
    Call ω β → M (Call ω β)
  | .waiting w => do
    awaitReader env (awaited w)
    a.wake env true w
  | c => return c

/-- A call that goes through its waits with nobody else about, `n` of them at most. -/
def Announcement.settle {ω β : Type} (a : Announcement ω β) (awaited : ω → DdsTopic) (env : Env) :
    ℕ → Call ω β → M Bool
  | 0, c => return c.answer
  | n + 1, c => do
    let c ← a.await awaited env c
    a.settle awaited env n c

/-- What may happen while clients announce a name: a call starts, a wait wakes up, the discovery
thread creates a reader, or some other operation runs, or a piece of one. -/
inductive AnnounceOp (κ : Type)
  | start (k : κ) (env : Env) (protocol : Protocol)
  | wake (k : κ) (env : Env) (timedOut : Bool)
  | createReader (env : Env) (topic : DdsTopic)
  | other (operation : M Unit)

section System

variable {κ ω β : Type} [DecidableEq κ]

/-- The enabler and the calls of its clients. -/
abbrev Callers (κ ω β : Type) := Threads κ State (Call ω β)

namespace Callers

def step (a : Announcement ω β) (c : Callers κ ω β) : AnnounceOp κ → Callers κ ω β
  | .start k env protocol =>
    match c.thread k with
    | .idle => c.move k .failed (a.start env protocol)
    | _ => c
  | .wake k env timedOut =>
    match c.thread k with
    | .waiting w => c.move k .failed (a.wake env timedOut w)
    | _ => c
  | .createReader env topic => c.disturb (discard (createReader env topic))
  | .other operation => c.disturb operation

end Callers

/-- What keeps the calls of an announcement apart.

While another call waits, a call is turned away; while no call waits, it finds everything vacant.
A call that wakes up finds vacant what it simulates next. Other operations leave alone what the
name stands for, unless no call is engaged. -/
structure Care (ω : Type) where
  turnedAway : Protocol → Participant → ω → Prop
  vacant : Protocol → Participant → Prop
  vacantNext : Participant → ω → Prop
  leaves : Participant → Participant → Prop

def Care.Taken (r : Care ω) (c : Callers κ ω β) : AnnounceOp κ → Prop
  | .start _ _ protocol =>
    (∀ k w, c.thread k = .waiting w → r.turnedAway protocol c.shared.participant w) ∧
      ((∀ k w, c.thread k ≠ .waiting w) → r.vacant protocol c.shared.participant)
  | .wake k _ _ => ∀ w, c.thread k = .waiting w → r.vacantNext c.shared.participant w
  | .createReader _ _ => True
  | .other operation =>
    (∀ k, ¬ (c.thread k).Engaged) ∨
      r.leaves c.shared.participant (after operation c.shared).participant

/-- Where the care suffices, for what the engaged call owns of the participant. -/
structure Care.Suffices (r : Care ω) (a : Announcement ω β)
    (owns : Participant → Call ω β → Prop) : Prop where
  start : ∀ env protocol s y t, r.vacant protocol s.participant →
    (a.start env protocol).run s = .ok y t → y.Engaged → owns t.participant y
  aside : ∀ env protocol s y, y.Engaged → owns s.participant y →
    (∀ w, y = .waiting w → r.turnedAway protocol s.participant w) →
    (∀ z t, (a.start env protocol).run s = .ok z t → ¬ z.Engaged) ∧
      owns (after (a.start env protocol) s).participant y
  wake : ∀ env timedOut s w y t, r.vacantNext s.participant w →
    owns s.participant (.waiting w) → (a.wake env timedOut w).run s = .ok y t → y.Engaged →
    owns t.participant y
  discovered : ∀ env topic s y, owns s.participant y →
    owns (after (createReader env topic) s).participant y
  leaves : ∀ p p' y, r.leaves p p' → owns p y → owns p' y

variable {r : Care ω} {a : Announcement ω β} {owns : Participant → Call ω β → Prop}

/-- The invariant of a run in which care is taken. -/
abbrev Exclusively (owns : Participant → Call ω β → Prop) (c : Callers κ ω β) : Prop :=
  Exclusive Call.Engaged (fun s => owns s.participant) c

namespace Care.Suffices

variable (h : r.Suffices a owns) {c : Callers κ ω β} {k : κ}

include h

lemma exclusive_start (hc : Exclusively owns c) {env : Env} {protocol : Protocol}
    (hcare : r.Taken c (.start k env protocol)) :
    Exclusively owns (Callers.step a c (.start k env protocol)) := by
  obtain ⟨haway, hvacant⟩ := hcare
  simp only [Callers.step]
  split
  · next hidle =>
    by_cases hfree : ∀ k', ¬ (c.thread k').Engaged
    · refine exclusive_move (fun k' hk' => absurd hk' (hfree k')) Call.not_engaged_failed ?_
      intro y t hrun hy
      exact h.start env protocol c.shared y t
        (hvacant fun k' w hw => hfree k' (hw ▸ Call.engaged_waiting w)) hrun hy
    · -- the engaged call turns the new one away, by its entry or as it waits
      obtain ⟨k', hk'⟩ := not_forall_not.mp hfree
      have haside := fun k'' hk'' hown =>
        h.aside env protocol c.shared (c.thread k'') hk'' hown (haway k'')
      refine hc.aside (by rw [hidle]; exact Call.not_engaged_idle) Call.not_engaged_failed
        (haside k' hk' (hc.owns k' hk')).1 fun k'' hk'' hown => (haside k'' hk'' hown).2
  · exact hc

lemma exclusive_wake (hc : Exclusively owns c) {env : Env} {timedOut : Bool}
    (hcare : r.Taken c (.wake k env timedOut)) :
    Exclusively owns (Callers.step a c (.wake k env timedOut)) := by
  simp only [Callers.step]
  split
  · next w hw =>
    have hk : (c.thread k).Engaged := hw ▸ Call.engaged_waiting w
    have hown := hc.owns k hk
    rw [hw] at hown
    refine exclusive_move (fun k' hk' => hc.unique k' k hk' hk) Call.not_engaged_failed ?_
    intro y t hrun hy
    exact h.wake env timedOut c.shared w y t (hcare w hw) hown hrun hy
  · exact hc

lemma exclusive_step (op : AnnounceOp κ) (hc : Exclusively owns c) (hcare : r.Taken c op) :
    Exclusively owns (Callers.step a c op) := by
  cases op with
  | start k env protocol => exact h.exclusive_start hc hcare
  | wake k env timedOut => exact h.exclusive_wake hc hcare
  | createReader env topic =>
    refine hc.disturb fun k hk hown => ?_
    rw [after_discard]
    exact h.discovered env topic c.shared _ hown
  | other operation =>
    rcases hcare with hfree | hleaves
    · exact hc.disturb fun k hk => absurd hk (hfree k)
    · exact hc.disturb fun k hk hown => h.leaves _ _ _ hleaves hown

lemma exclusive_run {w : List (AnnounceOp κ)} (hidle : ∀ k, c.thread k = .idle)
    (hw : Along (Callers.step a) r.Taken c w) :
    Exclusively owns (run (Callers.step a) c w) := by
  have hc : Exclusively owns c :=
    exclusive_of_free fun k => by rw [hidle k]; exact Call.not_engaged_idle
  exact run_inv (fun c op hc hcare => h.exclusive_step op hc hcare) hc hw

end Care.Suffices

end System

/-! ### What a reader leaves behind -/

/-- The endpoints that the enabler has simulated for a topic. -/
def Participant.endpointsOf (p : Participant) (topicName : Str) : List Endpoint :=
  p.endpoints.filter fun e => e.topic.topicName = topicName

lemma endpointsOf_simulateEndpoint (p : Participant) (topic : DdsTopic) (topicName : Str) :
    (p.simulateEndpoint topic).2.endpointsOf topicName =
      if topic.topicName = topicName then p.endpointsOf topicName ++ [(p.simulateEndpoint topic).1]
      else p.endpointsOf topicName := by
  simp only [Participant.endpointsOf, Participant.simulateEndpoint, List.filter_append]
  split
  · next h => simp [h]
  · next h => simp [h]

section Discovery

variable {p q : Participant} {topic : DdsTopic}

lemma endpoints_entered (h : EnteredAs topic p q) :
    q.endpoints = p.endpoints ∧ q.nextGuid = p.nextGuid := by
  cases h with
  | not => exact ⟨rfl, rfl⟩
  | service info => exact ⟨rfl, rfl⟩
  | action _ =>
    unfold Participant.actionDiscovered Participant.enterTopic
    by_cases hs : (RpcInfo.ofTopic topic.topicName).serviceType ≠ .none
    · simp only [hs, ne_eq, not_false_eq_true, if_true]
      split
      · exact ⟨rfl, rfl⟩
      · exact ⟨rfl, rfl⟩
    · simp only [hs, if_false, and_self]

lemma endpointsOf_entered (h : EnteredAs topic p q) (topicName : Str) :
    q.endpointsOf topicName = p.endpointsOf topicName := by
  rw [Participant.endpointsOf, (endpoints_entered h).1, Participant.endpointsOf]

lemma generation_entered (h : EnteredAs topic p q) (name : Str) :
    q.services.generation name = p.services.generation name := by
  rcases h.discovers with h | ⟨info, topic', h⟩
  · rw [h]
  · rw [h, serviceDiscovered_services, ServiceMap.generation_set]

lemma find_entered (h : EnteredAs topic p q) {name : Str} {v : ServiceDiscovered}
    (hv : p.services.find name = some v) : ∃ v', q.services.find name = some v' ∧
      v'.enablerAsServer = v.enablerAsServer ∧
      (v.requestDiscovered = true → v.replyDiscovered = true → v' = v) := by
  rcases h.discovers with h | ⟨info, topic', h⟩
  · exact ⟨v, by rw [h, hv], rfl, fun _ _ => rfl⟩
  · rw [h, serviceDiscovered_services]
    by_cases hname : name = info.serviceName
    · subst hname
      obtain ⟨hflag, -, hsame⟩ := ServiceServers.discover_entry v topic' info.serviceType
      exact ⟨v.discover topic' info.serviceType, by simp [hv], hflag, hsame⟩
    · exact ⟨v, by simp [hname, hv], rfl, fun _ _ => rfl⟩

end Discovery

/-! ### Services -/

/-- A call of `announce_service` in its wait: the service, and the endpoint simulated for it. -/
structure ServiceWait where
  service : ServiceDiscovered
  request : Endpoint

abbrev ServiceCall := Call ServiceWait ServiceDiscovered

/-- The end of `announce_service`, once the reader is there. -/
def wakeService (serviceName : Str) (timedOut : Bool) (w : ServiceWait) : M ServiceCall := do
  match ← readParticipant (·.lookupReader w.service.topicRequest.topicName) with
  | some _ =>
    let service := { w.service with endpointRequest := some w.request }
    insertService serviceName service
    return .built service
  | none => return if timedOut then .failed else .waiting w

/-- `announce_service` up to its wait. -/
def startService (env : Env) (serviceName : Str) (protocol : Protocol) : M ServiceCall := do
  match ← readParticipant (·.services.find serviceName) with
  | some s =>
    if s.enablerAsServer then return .failed
    else
      setService serviceName { s with enablerAsServer := true }
      return .flagged
  | none =>
    match ← queryService env { serviceName, protocol } protocol with
    | none => return .failed
    | some service =>
      match ← readParticipant (·.lookupReader service.topicRequest.topicName) with
      | some _ => return .failed
      | none =>
        return .waiting ⟨service, ← onParticipant (·.simulateEndpoint service.topicRequest)⟩

def announcingService (serviceName : Str) : Announcement ServiceWait ServiceDiscovered where
  start env := startService env serviceName
  wake _ := wakeService serviceName

lemma wakeService_run_some {serviceName : Str} {timedOut : Bool} {w : ServiceWait} {s : State}
    {f : TopicKey × Reader}
    (h : s.participant.lookupReader w.service.topicRequest.topicName = some f) :
    (wakeService serviceName timedOut w).run s =
      .ok (.built { w.service with endpointRequest := some w.request })
        { s with participant := { s.participant with
          services := s.participant.services.insertOrAssign serviceName
            { w.service with endpointRequest := some w.request } } } := by
  simp [wakeService, h, insertService]

lemma wakeService_run_none {serviceName : Str} {timedOut : Bool} {w : ServiceWait} {s : State}
    (h : s.participant.lookupReader w.service.topicRequest.topicName = none) :
    (wakeService serviceName timedOut w).run s =
      .ok (if timedOut then .failed else .waiting w) s := by
  simp [wakeService, h]

/-- The pieces make the whole, where nothing comes between them but the creation of the reader. -/
theorem announceService_eq (env : Env) (serviceName : Str) (protocol : Protocol) :
    announceService env serviceName protocol = (do
      let c ← startService env serviceName protocol
      (announcingService serviceName).settle (·.service.topicRequest) env 1 c) := by
  unfold announceService startService
  simp only [bind_assoc]
  refine bind_congr fun r => ?_
  rcases r with _ | v
  · simp only [bind_assoc]
    refine bind_congr fun r => ?_
    rcases r with _ | service
    · rfl
    · simp only [createServiceRequestWriter, createTopicWriter_eq, bind_assoc, pure_bind]
      refine bind_congr fun r => ?_
      rcases r with _ | f
      · simp only [bind_assoc, pure_bind, Announcement.settle, Announcement.await,
          announcingService]
        refine bind_congr fun request => bind_congr fun _ => ?_
        unfold wakeService
        simp only [bind_assoc]
        refine bind_congr fun r => ?_
        rcases r with _ | f
        · rfl
        · rfl
      · rfl
  · rcases hv : v.enablerAsServer
    · simp only [hv]
      rfl
    · simp only [hv]
      rfl

/-- A topic without a reader has no endpoint either. -/
def Participant.Vacant (p : Participant) (topicName : Str) : Prop :=
  p.lookupReader topicName = none → p.endpointsOf topicName = []

instance (p : Participant) (topicName : Str) : Decidable (p.Vacant topicName) :=
  inferInstanceAs (Decidable (_ → _))

/-- A call for a service is turned away: by a server, or by a reader of the request topic. -/
def Participant.TurnsAway (p : Participant) (serviceName : Str) (protocol : Protocol) : Prop :=
  match p.services.find serviceName with
  | some v => v.enablerAsServer = true
  | none => ∀ topicName, requestTopic protocol serviceName = some topicName →
      p.lookupReader topicName ≠ none

/-- Nothing else touches the entry of the service and the endpoints of its request topics. -/
def serviceCare (serviceName : Str) : Care ServiceWait where
  turnedAway protocol p _ := p.TurnsAway serviceName protocol
  vacant protocol p :=
    p.services.find serviceName = none → ∀ topicName,
      requestTopic protocol serviceName = some topicName → p.Vacant topicName
  vacantNext _ _ := True
  leaves p p' :=
    p'.services.find serviceName = p.services.find serviceName ∧ ∀ protocol topicName,
      requestTopic protocol serviceName = some topicName →
      p'.endpointsOf topicName = p.endpointsOf topicName

/-- A service that a call has queried, and its endpoint, which is the only one for its request
topic. -/
structure OnlyEndpoint (serviceName : Str) (p : Participant) (v : ServiceDiscovered)
    (e : Endpoint) : Prop where
  request : v.requestDiscovered = true
  reply : v.replyDiscovered = true
  server : v.enablerAsServer = true
  topic : ∃ protocol, requestTopic protocol serviceName = some v.topicRequest.topicName
  only : p.endpointsOf v.topicRequest.topicName = [e]

/-- What the engaged call owns: the only endpoint, and at the end the entry. -/
def OwnsService (serviceName : Str) (p : Participant) : ServiceCall → Prop
  | .waiting w => OnlyEndpoint serviceName p w.service w.request
  | .flagged => ∃ v, p.services.find serviceName = some v ∧ v.enablerAsServer = true
  | .built v => p.services.find serviceName = some v ∧
      ∃ e, v.endpointRequest = some e ∧ OnlyEndpoint serviceName p v e
  | _ => True

section Services

variable {serviceName : Str} {env : Env} {protocol : Protocol} {s t : State} {y : ServiceCall}

lemma OnlyEndpoint.congr {p p' : Participant} {v : ServiceDiscovered} {e : Endpoint}
    (h : OnlyEndpoint serviceName p v e)
    (hp : p'.endpointsOf v.topicRequest.topicName = p.endpointsOf v.topicRequest.topicName) :
    OnlyEndpoint serviceName p' v e :=
  ⟨h.request, h.reply, h.server, h.topic, hp.trans h.only⟩

lemma wakeService_owns {timedOut : Bool} {w : ServiceWait}
    (h : OnlyEndpoint serviceName s.participant w.service w.request)
    (hrun : (wakeService serviceName timedOut w).run s = .ok y t) (hy : y.Engaged) :
    OwnsService serviceName t.participant y := by
  rcases hr : s.participant.lookupReader w.service.topicRequest.topicName with _ | f
  · rw [wakeService_run_none hr] at hrun
    cases timedOut
    · cases hrun
      exact h
    · cases hrun
      exact absurd hy Call.not_engaged_failed
  · rw [wakeService_run_some hr] at hrun
    cases hrun
    exact ⟨by simp, w.request, rfl, h.request, h.reply, h.server, h.topic, h.only⟩

lemma startService_owns (hvacant : (serviceCare serviceName).vacant protocol s.participant)
    (hrun : (startService env serviceName protocol).run s = .ok y t) (hy : y.Engaged) :
    OwnsService serviceName t.participant y := by
  unfold startService at hrun
  rw [EStateM.run_bind, readParticipant_run] at hrun
  rcases hf : s.participant.services.find serviceName with _ | v
  · rw [hf] at hrun
    obtain ⟨r, u, hq, hrun⟩ := ok_of_bind hrun
    rcases r with _ | service
    · cases hrun
      exact absurd hy Call.not_engaged_failed
    · obtain ⟨hp, request, reply, htopic, -, rfl⟩ := queryService_some hq
      obtain ⟨r, u', hread, hrun⟩ := ok_of_bind hrun
      rw [readParticipant_run] at hread
      injection hread with hread hu
      subst hu
      rcases r with _ | f
      · rw [hp] at hread
        have hempty := hvacant hf _ htopic hread
        cases hrun
        refine ⟨rfl, rfl, rfl, ⟨protocol, htopic⟩, ?_⟩
        simp [endpointsOf_simulateEndpoint, ServiceDiscovered.queried, hp, hempty]
      · cases hrun
        exact absurd hy Call.not_engaged_failed
  · rw [hf] at hrun
    simp only at hrun
    split at hrun
    · cases hrun
      exact absurd hy Call.not_engaged_failed
    · obtain ⟨_, u, hset, hrun⟩ := ok_of_bind hrun
      cases hset
      cases hrun
      exact ⟨{ v with enablerAsServer := true }, by simp, rfl⟩

variable (env) in
lemma startService_away (haway : s.participant.TurnsAway serviceName protocol) :
    (∀ z t, (startService env serviceName protocol).run s = .ok z t → ¬ z.Engaged) ∧
      (after (startService env serviceName protocol) s).participant = s.participant := by
  have hfailed : ∀ {u z t}, (.ok .failed u : EStateM.Result Exc State ServiceCall) = .ok z t →
      ¬ z.Engaged := by
    intro u z t h
    cases h
    exact Call.not_engaged_failed
  unfold startService
  rw [run_bind_ok (readParticipant_run s _), after_bind_ok (readParticipant_run s _)]
  rcases hf : s.participant.services.find serviceName with _ | v
  · simp only [Participant.TurnsAway, hf] at haway
    have hsame := (ignores_queryService env { serviceName, protocol } protocol).after s
    simp only
    rcases hq : (queryService env { serviceName, protocol } protocol).run s with
      ⟨r, u⟩ | ⟨e, u⟩
    · rw [after_ok hq] at hsame
      rw [run_bind_ok hq, after_bind_ok hq]
      rcases r with _ | service
      · exact ⟨fun z t => hfailed, hsame⟩
      · obtain ⟨-, request, reply, htopic, -, rfl⟩ := queryService_some hq
        obtain ⟨f, hreader⟩ := Option.ne_none_iff_exists'.mp (haway _ htopic)
        have hread : (readParticipant (·.lookupReader request.topicName)).run u =
            .ok (some f) u := by
          rw [readParticipant_run, hsame, hreader]
        simp only [ServiceDiscovered.queried]
        rw [run_bind_ok hread, after_bind_ok hread]
        exact ⟨fun z t => hfailed, hsame⟩
    · rw [after_error hq] at hsame
      rw [run_bind_error hq, after_error (run_bind_error hq)]
      refine ⟨fun z t h => ?_, hsame⟩
      cases h
  · simp only [Participant.TurnsAway, hf] at haway
    simp only [haway, if_true]
    exact ⟨fun z t => hfailed, rfl⟩

lemma OwnsService.congr {p p' : Participant} (h : OwnsService serviceName p y)
    (hp : (serviceCare serviceName).leaves p p') : OwnsService serviceName p' y := by
  obtain ⟨hfind, hends⟩ := hp
  have honly : ∀ {v e}, OnlyEndpoint serviceName p v e → OnlyEndpoint serviceName p' v e := by
    intro v e hv
    obtain ⟨protocol, htopic⟩ := hv.topic
    exact hv.congr (hends protocol _ htopic)
  cases y with
  | idle => trivial
  | failed => trivial
  | waiting w => exact honly h
  | flagged =>
    obtain ⟨v, hv, hserver⟩ := h
    exact ⟨v, hfind.trans hv, hserver⟩
  | built v =>
    obtain ⟨hv, e, he, hv'⟩ := h
    exact ⟨hfind.trans hv, e, he, honly hv'⟩

lemma OwnsService.discovered {topic : DdsTopic} (h : OwnsService serviceName s.participant y) :
    OwnsService serviceName (after (createReader env topic) s).participant y := by
  obtain ⟨q, readers, hq, hafter⟩ := entered_createReader topic env s
  have hends : ∀ topicName,
      (after (createReader env topic) s).participant.endpointsOf topicName =
        s.participant.endpointsOf topicName := by
    intro topicName
    rw [hafter]
    exact endpointsOf_entered hq topicName
  have hfind : ∀ v, s.participant.services.find serviceName = some v → ∃ v',
      (after (createReader env topic) s).participant.services.find serviceName = some v' ∧
      v'.enablerAsServer = v.enablerAsServer ∧
      (v.requestDiscovered = true → v.replyDiscovered = true → v' = v) := by
    intro v hv
    rw [hafter]
    exact find_entered hq hv
  cases y with
  | idle => trivial
  | failed => trivial
  | waiting w => exact OnlyEndpoint.congr h (hends _)
  | flagged =>
    obtain ⟨v, hv, hserver⟩ := h
    obtain ⟨v', hv', hflag, -⟩ := hfind v hv
    exact ⟨v', hv', hflag.trans hserver⟩
  | built v =>
    obtain ⟨hv, e, he, honly⟩ := h
    obtain ⟨v', hv', -, hsame⟩ := hfind v hv
    rw [hsame honly.request honly.reply] at hv'
    exact ⟨hv', e, he, honly.congr (hends _)⟩

lemma OwnsService.turnsAway {p : Participant} (h : OwnsService serviceName p y) (hy : y.Engaged)
    (haway : ∀ w, y = .waiting w → p.TurnsAway serviceName protocol) :
    p.TurnsAway serviceName protocol := by
  cases y with
  | idle => exact absurd hy Call.not_engaged_idle
  | failed => exact absurd hy Call.not_engaged_failed
  | waiting w => exact haway w rfl
  | flagged =>
    obtain ⟨v, hv, hserver⟩ := h
    simp only [Participant.TurnsAway, hv]
    exact hserver
  | built v =>
    obtain ⟨hv, e, he, honly⟩ := h
    simp only [Participant.TurnsAway, hv]
    exact honly.server

lemma serviceCare_suffices (serviceName : Str) :
    (serviceCare serviceName).Suffices (announcingService serviceName)
      (OwnsService serviceName) where
  start env protocol s y t hvacant hrun hy := startService_owns hvacant hrun hy
  aside env protocol s y hy hown haway := by
    obtain ⟨hfails, hsame⟩ := startService_away env (hown.turnsAway hy haway)
    refine ⟨hfails, ?_⟩
    change OwnsService serviceName (after (startService env serviceName protocol) s).participant y
    rw [hsame]
    exact hown
  wake env timedOut s w y t _ hown hrun hy := wakeService_owns hown hrun hy
  discovered env topic s y hown := hown.discovered
  leaves p p' y hleaves hown := hown.congr hleaves

/-- One call at most has returned true. The entry is the one it has built, with the only endpoint
for the request topic, or one there was that the enabler now serves. -/
structure ServiceWinner {κ : Type} (serviceName : Str)
    (c : Callers κ ServiceWait ServiceDiscovered) : Prop where
  unique : ∀ k k', (c.thread k).answer = true → (c.thread k').answer = true → k = k'
  built : ∀ k v, c.thread k = .built v →
    c.shared.participant.services.find serviceName = some v ∧ ∃ e, v.endpointRequest = some e ∧
      c.shared.participant.endpointsOf v.topicRequest.topicName = [e]
  flagged : ∀ k, c.thread k = .flagged → ∃ v,
    c.shared.participant.services.find serviceName = some v ∧ v.enablerAsServer = true

lemma serviceWinner_of_exclusively {κ : Type} {c : Callers κ ServiceWait ServiceDiscovered}
    (h : Exclusively (OwnsService serviceName) c) : ServiceWinner serviceName c where
  unique k k' hk hk' := h.unique k k' (.inr hk) (.inr hk')
  built k v hk := by
    have hown := h.owns k (hk ▸ Call.engaged_built v)
    rw [hk] at hown
    obtain ⟨hv, e, he, honly⟩ := hown
    exact ⟨hv, e, he, honly.only⟩
  flagged k hk := by
    have hown := h.owns k (hk ▸ Call.engaged_flagged)
    rw [hk] at hown
    exact hown

end Services

end DdsEnabler
