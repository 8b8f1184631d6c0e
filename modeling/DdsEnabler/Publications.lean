import DdsEnabler.Effects

/-!
Which samples the enabler answers by itself.

A sample makes the handler publish in three cases: the reply to a goal, whose result is then
requested, and the requests for a goal and for a result. All other samples are `Quiet`: they
tell the user and write the tables of the handler.
-/

namespace DdsEnabler

open Exec

def Event.isPublication : Event → Bool
  | .published .. | .publishedRpc .. => true
  | _ => false

/-- The samples that are answered: the replies to goals, and the requests for goals and
results. -/
def RpcInfo.Answered (info : RpcInfo) : Prop :=
  info.rpcType = .action ∧
    ((info.serviceType = .reply ∧ info.actionType = .goal) ∨
      (info.serviceType = .request ∧ (info.actionType = .goal ∨ info.actionType = .result)))

/-- Nothing is published. -/
def Quiet (s t : State) : Prop :=
  ∃ es, t.trace = s.trace ++ es ∧ ∀ e ∈ es, e.isPublication = false

instance : IsPreorder State Quiet where
  refl s := ⟨[], by simp, by simp⟩
  trans s t r := by
    rintro ⟨es, h, hes⟩ ⟨es', h', hes'⟩
    refine ⟨es ++ es', by rw [h', h, List.append_assoc], fun e he => ?_⟩
    rcases List.mem_append.mp he with he | he
    · exact hes e he
    · exact hes' e he

lemma quiet_log {e : Event} (h : e.isPublication = false) (s : State) : Quiet s (s.log [e]) :=
  ⟨[e], rfl, by simpa using h⟩

lemma quiet_of_trace {s t : State} (h : t.trace = s.trace) : Quiet s t :=
  ⟨[], by simp [h], by simp⟩

lemma admits_quiet (o : Option Nat) : Admits o Quiet where
  notice {e} he _ := by
    refine quiet_log ?_
    cases e <;> first | rfl | cases he
  erase u reason s := quiet_log (e := .erasedAction u reason) rfl _

section Samples

variable (env : Env) (msg : Message) (dynType : DynType) (data : Sample) (info : RpcInfo)

lemma quiet_storeActionRequest (actionName : Str) (u : UUID) (id : Nat) (ty : ActionType)
    (p : Protocol) : Keeps Quiet (storeActionRequest env actionName u id ty p) := by
  intro s
  rcases h : (s.handler.storeActionRequest actionName u id ty p env.now).1
  · rw [after_ok (storeActionRequest_run_false s env h)]
    exact refl_of _ s
  · rw [after_ok (storeActionRequest_run_true s env h)]
    exact ⟨[_], rfl, by simp [Event.isPublication]⟩

lemma quiet_stampRequest : Keeps Quiet (stampRequest data) := by
  have hdraw : Keeps Quiet getNewRequestId := fun s =>
    ⟨[.newRequestId s.handler.nextRequestId.1], rfl, by simp [Event.isPublication]⟩
  unfold stampRequest requireRpc
  refine hdraw.bind fun id => (Keeps.ite (Keeps.pure _) (Keeps.throw _)).bind fun _ => ?_
  exact (Keeps.emit (quiet_log rfl)).bind fun _ => Keeps.pure _

lemma quiet_addServiceData : Keeps Quiet (addServiceData env info data msg dynType) := by
  unfold addServiceData
  refine Keeps.ite ((quiet_stampRequest data).bind fun id => ?_)
    ((keeps_relatedRequestId data).bind fun id => ?_)
  · exact keeps_writeServiceRequestNotification env (admits_quiet _) msg dynType _
  · exact keeps_writeServiceReplyNotification env (admits_quiet none) msg dynType id _

/-- A request to cancel a goal is recorded and told to the user, who has to answer it. -/
lemma quiet_addActionRequest (h : info.actionType = .cancel) :
    Keeps Quiet (addActionRequest env info data msg dynType) := by
  unfold addActionRequest
  refine (quiet_stampRequest data).bind fun id => (Keeps.lift _).bind fun u => ?_
  split
  · exact Keeps.pure _
  · refine (quiet_storeActionRequest env _ _ _ _ _).bind fun b => Keeps.ite ?_ (Keeps.pure _)
    unfold writeActionRequestNotification
    rw [h]
    split
    · exact Keeps.pure _
    · exact keeps_writeCancelRequest env (admits_quiet _) msg _ _

/-- **Only answered samples publish**, whatever their payload. -/
theorem quiet_addData (topic : DdsTopic) (h : ¬ (RpcInfo.ofTopic topic.topicName).Answered) :
    Keeps Quiet (addData env topic data) := by
  unfold addData
  refine (Keeps.readHandler _).bind fun schema => ?_
  split
  · exact Keeps.pure _
  refine Keeps.bind (fun s => quiet_of_trace rfl) fun _ => Keeps.ite (Keeps.throw _) ?_
  generalize RpcInfo.ofTopic topic.topicName = info at h
  unfold addKnownData
  split
  · exact keeps_writeData env (admits_quiet none) _ _
  · exact quiet_addServiceData env _ _ data info
  · rename_i hrpc
    unfold addActionData
    split
    · exact keeps_addResultReply env _ _ data info (admits_quiet none)
    · exact absurd ⟨hrpc, .inl ⟨‹_›, ‹_›⟩⟩ h
    · exact keeps_addCancelReply env _ _ data info (admits_quiet none)
    · exact absurd ⟨hrpc, .inr ⟨‹_›, .inl ‹_›⟩⟩ h
    · exact quiet_addActionRequest env _ _ data info ‹_›
    · exact absurd ⟨hrpc, .inr ⟨‹_›, .inr ‹_›⟩⟩ h
    · exact keeps_writeActionFeedbackNotification env (admits_quiet none) _ _ _
    · exact keeps_writeActionStatusNotification env (admits_quiet none) _ _ _
    · exact Keeps.pure _

end Samples

end DdsEnabler
