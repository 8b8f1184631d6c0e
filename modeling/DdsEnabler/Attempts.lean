import DdsEnabler.Calls

/-!
Attempts to publish, and to announce a service, whose writer is not created.

The endpoint is simulated before the wait, and nothing takes it back when the wait times out. So an
attempt that fails leaves no trace if it does not get as far as the wait, and every attempt that
does leaves an endpoint.
-/

namespace DdsEnabler.ParticipantOp

open Exec Runs

/-- The call asks for the writer of a topic or of a service, which is created or not. -/
def AsksWriter (s : State) (created : Bool) : ParticipantOp → Prop
  | .publish env topicName _ => topicName ≠ [] ∧ s.participant.lookupReader topicName = none ∧
      ∃ topic t e r, (queryTopic env topicName).run s = .ok (some topic) t ∧
        outcome (createTopicWriter env topic) t = .ok (e, r) ∧ r.isSome = created
  | .announceService env serviceName protocol =>
      s.participant.services.find serviceName = none ∧ ∃ service t r,
        (queryService env { serviceName, protocol } protocol).run s = .ok (some service) t ∧
        outcome (createServiceRequestWriter env service) t = .ok r ∧ r.isSome = created
  | _ => False

/-- The name of the topic that a writer is asked for. -/
def writerTopic : ParticipantOp → Option Str
  | .publish _ topicName _ => some topicName
  | .announceService _ serviceName protocol => requestTopic protocol serviceName
  | _ => none

/-- A call that fails for want of a writer changes neither the services nor the endpoints. -/
def LeavesNoTrace (s : State) (op : ParticipantOp) : Prop :=
  AsksWriter s false op →
    (∀ name, (step s op).participant.services.find name = s.participant.services.find name) ∧
      ∀ e, e ∈ (step s op).participant.endpoints ↔ e ∈ s.participant.endpoints

/-- Attempts that fail for want of the writer of a topic, and one that gets it, leave one endpoint
more for the topic. -/
def OneEndpointLeft (s : State) (w : List ParticipantOp) : Prop :=
  ∀ u attempts op v topicName, w = u ++ attempts ++ op :: v →
    Along step (fun s op => AsksWriter s false op ∧ op.writerTopic = some topicName)
      (run step s u) attempts →
    AsksWriter (run step s (u ++ attempts)) true op → op.writerTopic = some topicName →
    ∃ e, (run step s (u ++ attempts ++ [op])).participant.endpointsOf topicName =
      (run step s u).participant.endpointsOf topicName ++ [e]

/-- Where the call simulates an endpoint, the reader is created before the wait times out. -/
def InTime (s : State) : ParticipantOp → Prop
  | .publish env topicName _ => topicName ≠ [] → s.participant.lookupReader topicName = none →
      ∀ topic t, (queryTopic env topicName).run s = .ok (some topic) t → env.CreatesReader topic
  | .announceService env serviceName protocol =>
      s.participant.services.find serviceName = none → ∀ service t,
        (queryService env { serviceName, protocol } protocol).run s = .ok (some service) t →
        s.participant.lookupReader service.topicRequest.topicName = none →
        env.CreatesReader service.topicRequest
  | _ => True

section Attempts

variable {env : Env} {s : State} {created : Bool}

lemma asksWriter_publish {topicName : Str} {json : JsonText} :
    AsksWriter s created (.publish env topicName json) ↔
      topicName ≠ [] ∧ s.participant.lookupReader topicName = none ∧ ∃ topic t,
        (queryTopic env topicName).run s = .ok (some topic) t ∧
        decide (env.CreatesReader topic) = created := by
  have hcreated : ∀ topic t, s.participant.lookupReader topicName = none →
      (queryTopic env topicName).run s = .ok (some topic) t →
      ((t.participant.awaited env topic).lookupReader topic.topicName).isSome =
        decide (env.CreatesReader topic) := by
    intro topic t hf hq
    obtain ⟨hp, htopic⟩ := queryTopic_some hq
    rw [Bool.eq_iff_iff, lookupReader_awaited _ _ _ (by rw [hp, htopic, hf]), decide_eq_true_eq]
  refine and_congr_right fun _ => and_congr_right fun hf => ?_
  constructor
  · rintro ⟨topic, t, e, r, hq, hwriter, rfl⟩
    rw [outcome_ok (createTopicWriter_awaited env topic t)] at hwriter
    cases hwriter
    exact ⟨topic, t, hq, (hcreated topic t hf hq).symm⟩
  · rintro ⟨topic, t, hq, rfl⟩
    exact ⟨topic, t, _, _, hq, outcome_ok (createTopicWriter_awaited env topic t),
      hcreated topic t hf hq⟩

lemma asksWriter_announceService {serviceName : Str} {protocol : Protocol} :
    AsksWriter s created (.announceService env serviceName protocol) ↔
      s.participant.services.find serviceName = none ∧ ∃ service t,
        (queryService env { serviceName, protocol } protocol).run s = .ok (some service) t ∧
        decide (s.participant.lookupReader service.topicRequest.topicName = none ∧
          env.CreatesReader service.topicRequest) = created := by
  have hcreated : ∀ service t,
      (queryService env { serviceName, protocol } protocol).run s = .ok (some service) t →
      ∃ r, outcome (createServiceRequestWriter env service) t = .ok r ∧
        r.isSome = decide (s.participant.lookupReader service.topicRequest.topicName = none ∧
          env.CreatesReader service.topicRequest) := by
    intro service t hq
    obtain ⟨hp, -⟩ := queryService_some hq
    rw [← hp]
    rcases hf : t.participant.lookupReader service.topicRequest.topicName with _ | f
    · by_cases hc : env.CreatesReader service.topicRequest
      · exact ⟨_, outcome_ok (createServiceRequestWriter_run_none hc hf), by simp [hc]⟩
      · exact ⟨_, outcome_ok (createServiceRequestWriter_late env hc hf), by simp [hc]⟩
    · exact ⟨_, outcome_ok (createServiceRequestWriter_run_some hf), by simp⟩
  refine and_congr_right fun _ => ?_
  constructor
  · rintro ⟨service, t, r, hq, hwriter, rfl⟩
    obtain ⟨r', hwriter', hr'⟩ := hcreated service t hq
    rw [hwriter] at hwriter'
    cases hwriter'
    exact ⟨service, t, hq, hr'.symm⟩
  · rintro ⟨service, t, hq, rfl⟩
    obtain ⟨r, hwriter, hr⟩ := hcreated service t hq
    exact ⟨service, t, r, hq, hwriter, hr⟩

lemma outcome_publish {topicName : Str} {json : JsonText}
    (h : AsksWriter s false (.publish env topicName json)) :
    outcome (DdsEnabler.publish env topicName json) s = .ok false := by
  obtain ⟨hname, hf, topic, t, hq, hc⟩ := asksWriter_publish.mp h
  obtain ⟨hp, htopic⟩ := queryTopic_some hq
  have hreader : t.participant.lookupReader topic.topicName = none := by rw [hp, htopic, hf]
  have hnone : ((t.participant.awaited env topic).lookupReader topic.topicName).isSome = false := by
    rw [Bool.eq_false_iff, ne_eq, lookupReader_awaited _ _ _ hreader]
    exact of_decide_eq_false hc
  refine outcome_ok (t := { t with participant := t.participant.awaited env topic }) ?_
  rw [publish_run_queried json hname hf hq, run_bind_ok (onParticipant_run t _)]
  rw [htopic] at hreader
  simp [Participant.enterPart, hreader, hnone]

lemma outcome_announceService {serviceName : Str} {protocol : Protocol}
    (h : AsksWriter s false (.announceService env serviceName protocol)) :
    outcome (DdsEnabler.announceService env serviceName protocol) s = .ok false := by
  obtain ⟨hfind, service, t, hq, hc⟩ := asksWriter_announceService.mp h
  have hrun := announceService_run_queried hfind hq
  rw [onParticipant_run] at hrun
  rw [outcome_ok hrun, (queryService_some hq).1]
  have hnot := of_decide_eq_false hc
  rcases hf : s.participant.lookupReader service.topicRequest.topicName with _ | f
  · have hlate : ¬ env.CreatesReader service.topicRequest := fun hcreates => hnot ⟨hf, hcreates⟩
    simp [Participant.enterPart, hf, hlate]
  · simp [Participant.enterPart, hf]

/-! ### What an attempt leaves behind -/

lemma endpoints_publish {topicName : Str} {topic : DdsTopic} {t : State} (json : JsonText)
    (hname : topicName ≠ []) (hf : s.participant.lookupReader topicName = none)
    (hq : (queryTopic env topicName).run s = .ok (some topic) t) :
    (step s (.publish env topicName json)).participant.endpoints =
      s.participant.endpoints ++ [⟨topic, s.participant.nextGuid⟩] := by
  change (after (DdsEnabler.publish env topicName json) s).participant.endpoints = _
  rw [publish_participant_queried json hname hf hq]
  exact endpoints_enterPart env hf

lemma step_announceService {serviceName : Str} {protocol : Protocol}
    {service : ServiceDiscovered} {t : State}
    (hf : s.participant.services.find serviceName = none)
    (hq : (queryService env { serviceName, protocol } protocol).run s = .ok (some service) t) :
    (step s (.announceService env serviceName protocol)).participant =
      (s.participant.enterPart env (.service service)).2 := by
  have hrun := announceService_run_queried hf hq
  rw [onParticipant_run, (queryService_some hq).1] at hrun
  exact congrArg State.participant (after_ok hrun)

lemma not_traceless {op : ParticipantOp} {topic : DdsTopic}
    (hfresh : s.participant.Fresh)
    (hends : (step s op).participant.endpoints =
      s.participant.endpoints ++ [⟨topic, s.participant.nextGuid⟩]) :
    ¬ ∀ e, e ∈ (step s op).participant.endpoints ↔ e ∈ s.participant.endpoints := by
  intro h
  have hmem := (h ⟨topic, s.participant.nextGuid⟩).mp (by rw [hends]; simp)
  exact absurd (hfresh _ hmem) (lt_irrefl _)

lemma leavesNoTrace_publish (hfresh : s.participant.Fresh) (topicName : Str) (json : JsonText) :
    LeavesNoTrace s (.publish env topicName json) ↔ InTime s (.publish env topicName json) := by
  unfold LeavesNoTrace
  rw [asksWriter_publish]
  constructor
  · intro h hname hf topic t hq
    by_contra hc
    obtain ⟨-, hsame⟩ := h ⟨hname, hf, topic, t, hq, by simpa using hc⟩
    exact not_traceless hfresh (endpoints_publish json hname hf hq) hsame
  · rintro h ⟨hname, hf, topic, t, hq, hc⟩
    exact absurd (h hname hf topic t hq) (by simpa using hc)

lemma leavesNoTrace_announceService (hfresh : s.participant.Fresh) (serviceName : Str)
    (protocol : Protocol) :
    LeavesNoTrace s (.announceService env serviceName protocol) ↔
      InTime s (.announceService env serviceName protocol) := by
  unfold LeavesNoTrace
  rw [asksWriter_announceService]
  constructor
  · intro h hfind service t hq hf
    by_contra hc
    obtain ⟨-, hsame⟩ := h ⟨hfind, service, t, hq, by simp [hc]⟩
    have hends : (s.participant.enterPart env (.service service)).2.endpoints = _ :=
      endpoints_enterPart env hf
    rw [← step_announceService hfind hq] at hends
    exact not_traceless hfresh hends hsame
  · rintro h ⟨hfind, service, t, hq, hc⟩
    rcases hf : s.participant.lookupReader service.topicRequest.topicName with _ | f
    · have hcreates := h hfind service t hq hf
      simp [hf, hcreates] at hc
    · rw [step_announceService hfind hq]
      simp [Participant.enterPart, hf]

lemma leavesNoTrace_iff (op : ParticipantOp) (hfresh : s.participant.Fresh) :
    LeavesNoTrace s op ↔ InTime s op := by
  cases op with
  | publish env topicName json => exact leavesNoTrace_publish hfresh topicName json
  | announceService env serviceName protocol =>
    exact leavesNoTrace_announceService hfresh serviceName protocol
  | announceAction env actionName protocol => exact ⟨fun _ => trivial, fun _ h => h.elim⟩
  | revokeService serviceName => exact ⟨fun _ => trivial, fun _ h => h.elim⟩
  | revokeAction actionName => exact ⟨fun _ => trivial, fun _ h => h.elim⟩
  | createReader env topic => exact ⟨fun _ => trivial, fun _ h => h.elim⟩
  | elsewhere handler => exact ⟨fun _ => trivial, fun _ h => h.elim⟩

/-! ### Repeated attempts -/

lemma endpoints_failed {op : ParticipantOp} (h : AsksWriter s false op) (hin : InTime s op) :
    (step s op).participant.endpoints = s.participant.endpoints := by
  cases op with
  | publish env topicName json =>
    obtain ⟨hname, hf, topic, t, hq, hc⟩ := asksWriter_publish.mp h
    exact absurd (hin hname hf topic t hq) (by simpa using hc)
  | announceService env serviceName protocol =>
    obtain ⟨hfind, service, t, hq, hc⟩ := asksWriter_announceService.mp h
    rcases hf : s.participant.lookupReader service.topicRequest.topicName with _ | f
    · have hcreates := hin hfind service t hq hf
      simp [hf, hcreates] at hc
    · rw [step_announceService hfind hq]
      simp [Participant.enterPart, hf]
  | announceAction env actionName protocol => exact h.elim
  | revokeService serviceName => exact h.elim
  | revokeAction actionName => exact h.elim
  | createReader env topic => exact h.elim
  | elsewhere handler => exact h.elim

lemma endpoints_succeeded {op : ParticipantOp} {topicName : Str} (h : AsksWriter s true op)
    (hname : op.writerTopic = some topicName) : ∃ e : Endpoint, e.topic.topicName = topicName ∧
      (step s op).participant.endpoints = s.participant.endpoints ++ [e] := by
  cases op with
  | publish env name json =>
    obtain ⟨hne, hf, topic, t, hq, -⟩ := asksWriter_publish.mp h
    cases hname
    exact ⟨_, (queryTopic_some hq).2, endpoints_publish json hne hf hq⟩
  | announceService env serviceName protocol =>
    obtain ⟨hfind, service, t, hq, hc⟩ := asksWriter_announceService.mp h
    obtain ⟨hf, -⟩ := of_decide_eq_true hc
    obtain ⟨-, request, reply, hrequest, -, rfl⟩ := queryService_some hq
    have htopic : some request.topicName = some topicName := hrequest.symm.trans hname
    refine ⟨⟨request, s.participant.nextGuid⟩, Option.some.inj htopic, ?_⟩
    rw [step_announceService hfind hq]
    exact endpoints_enterPart env hf
  | announceAction env actionName protocol => exact h.elim
  | revokeService serviceName => exact h.elim
  | revokeAction actionName => exact h.elim
  | createReader env topic => exact h.elim
  | elsewhere handler => exact h.elim

lemma endpoints_attempts {P : State → ParticipantOp → Prop} {w : List ParticipantOp}
    (hP : ∀ s op, P s op → AsksWriter s false op) (hw : Along step P s w)
    (hin : Along step InTime s w) :
    (run step s w).participant.endpoints = s.participant.endpoints := by
  induction w generalizing s with
  | nil => rfl
  | cons op w ih =>
    rw [run_cons, ih hw.2 hin.2, endpoints_failed (hP _ _ hw.1) hin.1]

lemma oneEndpointLeft_of_inTime {w : List ParticipantOp} (h : Along step InTime s w) :
    OneEndpointLeft s w := by
  rintro u attempts op v topicName rfl hattempts hwriter hname
  rw [List.append_assoc, along_append, along_append] at h
  have hsame := endpoints_attempts (fun _ _ hop => hop.1) hattempts h.2.1
  rw [← run_append] at hsame
  obtain ⟨e, he, hends⟩ := endpoints_succeeded hwriter hname
  refine ⟨e, ?_⟩
  rw [run_append _ (u ++ attempts)]
  change Participant.endpointsOf (step _ op).participant topicName = _
  simp [Participant.endpointsOf, hends, hsame, he]

end Attempts

/-- **Failed attempts leave no trace** in a run, and one endpoint is left by any number of them and
one success, if and only if the reader of every endpoint that a call simulates is created before
the wait times out. -/
theorem leaves_no_trace_iff (handler : Handler) (w : List ParticipantOp) :
    (Along step LeavesNoTrace (start handler) w ∧ OneEndpointLeft (start handler) w) ↔
      Along step InTime (start handler) w := by
  have hiff : Along step LeavesNoTrace (start handler) w ↔ Along step InTime (start handler) w :=
    along_iff_of_inv (I := fun s : State => s.participant.Fresh) (G := fun _ _ => True)
      (fun s op hs _ _ => fresh_step op hs)
      (fun s op hs _ => leavesNoTrace_iff op hs) (fresh_start handler)
      (along_of_forall (fun _ _ => trivial) _ _)
  rw [hiff]
  exact and_iff_left_of_imp oneEndpointLeft_of_inTime

open ServiceServers (answeringEnv)

/-- Topics are known to the user, and readers are created too late. -/
def lateEnv : Env :=
  { answeringEnv with
    callbacks := { answeringEnv.callbacks with topicQuery := some fun _ => some ⟨[], []⟩ }
    readerCreated := fun _ => false }

/-- Two publications whose wait times out leave an endpoint each. -/
theorem endpoints_pile_up :
    ¬ (Along step LeavesNoTrace (start {})
          [.publish lateEnv "chatter".toList (.other []),
            .publish lateEnv "chatter".toList (.other [])] ∧
        OneEndpointLeft (start {})
          [.publish lateEnv "chatter".toList (.other []),
            .publish lateEnv "chatter".toList (.other [])]) := by
  rintro ⟨⟨h, -⟩, -⟩
  have hq : ∃ topic t, (queryTopic lateEnv "chatter".toList).run (start {}) =
      .ok (some topic) t := ⟨_, _, rfl⟩
  obtain ⟨topic, t, hq⟩ := hq
  have hlate : ¬ lateEnv.CreatesReader topic := fun hc => Bool.noConfusion hc.1
  have hasks : AsksWriter (start {}) false (.publish lateEnv "chatter".toList (.other [])) :=
    asksWriter_publish.mpr ⟨by decide, rfl, topic, t, hq, decide_eq_false hlate⟩
  exact not_traceless (fresh_start {}) (endpoints_publish (.other []) (by decide) rfl hq)
    (h hasks).2

end DdsEnabler.ParticipantOp
