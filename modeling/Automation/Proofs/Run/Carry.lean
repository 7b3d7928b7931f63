import Automation.Action.Standard
import Automation.Proofs.Run.Outcome

namespace Automation

namespace Action

variable {n : Node} {c : Context} {s : Situation} {o : Outcome}

def Keeps (a : Action) : Prop := ∀ n c s o, a.act n c s = .ok o → o.context = c

theorem changing_act {telling : Node → String} (h : (changing telling).act n c s = .ok o) :
    n.change c = .ok o.context := by
  simp only [changing, map_eq_ok_iff] at h
  obtain ⟨d, hd, rfl⟩ := h
  exact hd

theorem describing_keeps (telling : Node → Context → Situation → Except Fault Value) :
    (describing telling).Keeps := by
  intro n c s o h
  simp only [describing, map_eq_ok_iff] at h
  obtain ⟨output, -, rfl⟩ := h
  rfl

theorem condition_keeps : Action.condition.Keeps := by
  intro n c s o h
  simp only [condition, map_eq_ok_iff] at h
  obtain ⟨passed, -, rfl⟩ := h
  rfl

end Action

theorem Actions.standard_find (type : String) :
    (∃ telling, Actions.standard.find type = .changing telling) ∨
      (Actions.standard.find type).Keeps ∧
        (Change.ofType? type = none ∨ type = "send_notification") := by
  unfold Actions.find Actions.standard
  split
  case h_7 => exact .inr ⟨Action.describing_keeps _, .inr rfl⟩
  case h_15 => exact .inr ⟨Action.condition_keeps, .inl rfl⟩
  all_goals first
    | exact .inl ⟨_, rfl⟩
    | exact .inr ⟨Action.describing_keeps _, .inl rfl⟩

namespace Node

/-- The context that a run carries on from a node: that of the node's change, except that a
notification leaves the context as it is. -/
def carry (n : Node) (c : Context) : Except Fault Context :=
  if n.type = "send_notification" then .ok c else n.change c

variable {n : Node} {c : Context} {s : Situation} {o : Outcome}

theorem carry_of_act (h : (Actions.standard.find n.type).act n c s = .ok o) :
    n.carry c = .ok o.context := by
  unfold carry
  split
  · next hn =>
    rw [hn] at h
    rw [Action.describing_keeps _ n c s o h]
  · next hn =>
    rcases Actions.standard_find n.type with ⟨telling, ha⟩ | ⟨ha, ht⟩
    · rw [ha] at h
      exact Action.changing_act h
    · rw [ha n c s o h, change, ht.resolve_right hn]

/-- An action may only part from the change of its node if the node is a notification. -/
theorem change_of_act_iff : (∀ c s o, (Actions.standard.find n.type).act n c s = .ok o →
    n.change c = .ok o.context) ↔ n.type ≠ "send_notification" := by
  constructor
  · intro h hn
    obtain ⟨o, ho⟩ : ∃ o, (Actions.standard.find n.type).act n {} ⟨default, true⟩ = .ok o := by
      rw [hn]
      exact ⟨_, rfl⟩
    have hk : o.context = {} := by
      rw [hn] at ho
      exact Action.describing_keeps _ n {} _ o ho
    have hd : n.change {} =
        .ok { notes := [("last_notification_to", n.config.get "notify_user")] } := by
      simp only [change, hn]
      rfl
    have he := (h _ _ _ ho).symm.trans hd
    rw [hk] at he
    cases he
  · intro hn c s o h
    have hc := carry_of_act h
    rwa [carry, if_neg hn] at hc

def carryAll (ns : List Node) (c : Context) : Except Fault Context :=
  ns.foldlM (fun c n ↦ n.carry c) c

theorem carryAll_cons {rest : List Node} {d e : Context} (h : n.carry c = .ok d)
    (hr : carryAll rest d = .ok e) : carryAll (n :: rest) c = .ok e := by
  simp only [carryAll, List.foldlM_cons, bind_eq_ok_iff]
  exact ⟨d, h, hr⟩

end Node

namespace Run

variable {s : Situation} {rules : Rules} {index : Nat} {c d : Context} {ns : List Node}
  {steps : List Step} {ending : Ending}

theorem Goes.step_carries (h : Goes .standard s rules index c ns steps ending) {i : Nat}
    {step : Step} (hi : steps[i]? = some step) (hs : step.status = .success) :
    ∃ d, Node.carryAll (ns.take (i + 1)) c = .ok d ∧ step.after = some d := by
  induction h generalizing i with
  | done => simp at hi
  | stop rest hf =>
    cases i with
    | zero =>
      cases hi
      cases hs
    | succ i => simp at hi
  | @next rules index c n o b rest steps ending _ ha _ _ ih =>
    have hn := Node.carry_of_act ha
    cases i with
    | zero =>
      cases hi
      exact ⟨o.context, Node.carryAll_cons hn rfl, rfl⟩
    | succ i =>
      obtain ⟨d, hd, he⟩ := ih hi
      exact ⟨d, Node.carryAll_cons hn hd, he⟩

theorem Goes.completed_carries (h : Goes .standard s rules index c ns steps (.completed d)) :
    Node.carryAll ns c = .ok d := by
  generalize he : Ending.completed d = ending at h
  induction h with
  | done =>
    cases he
    rfl
  | stop => cases he
  | next _ ha _ _ ih => exact Node.carryAll_cons (Node.carry_of_act ha) (ih he)

/-- A run with the actions known from the start carries each context on as the changes of its nodes
do. No other type of node than a notification makes an action part from the change of its node. -/
theorem run_carries_changes (unknownCondition : Bool) (rules : Rules) (clock : Clock)
    (trigger nodes payload edges : Value) {r : Result}
    (h : (Engine.run { unknownCondition } rules clock trigger nodes payload edges).outcome =
      .ok r) :
    (r.success = false ∧ r.steps = [] ∨
      ∃ type ns c, Starts clock.read.1 trigger nodes payload type ns c ∧
        r.startedAt = clock.read.1.text ∧
        (∀ i step, r.steps[i]? = some step → step.status = .success →
          ∃ d, Node.carryAll (ns.take (i + 1)) c = .ok d ∧ step.after = some d) ∧
        (r.success = true → ∃ d, Node.carryAll ns c = .ok d ∧ r.final = some d)) ∧
      ∀ n : Node, (∀ c s o, (Actions.standard.find n.type).act n c s = .ok o →
        n.change c = .ok o.context) ↔ n.type ≠ "send_notification" := by
  refine ⟨?_, fun n ↦ Node.change_of_act_iff⟩
  rcases Engine.run_eq_ok_cases h with
    ⟨first, more, rfl⟩ | ⟨type, ns, c, steps, ending, hstart, hg, rfl⟩
  · exact .inl ⟨rfl, rfl⟩
  · refine .inr ⟨type, ns, c, hstart, ?_⟩
    cases ending with
    | stopped n m => exact ⟨rfl, fun i step hi hs ↦ hg.step_carries hi hs, fun hr ↦ by cases hr⟩
    | completed d =>
      exact ⟨rfl, fun i step hi hs ↦ hg.step_carries hi hs,
        fun _ ↦ ⟨d, hg.completed_carries, rfl⟩⟩

set_option maxRecDepth 10000 in
theorem run_carries_changes_sample : ∃ r, Sample.outcome = .ok r ∧ r.success = true ∧
    ∃ type ns c, Starts Sample.clock.read.1 Sample.trigger (.list [Sample.tagging, Sample.telling])
      Sample.payload type ns c ∧ ∃ d, Node.carryAll ns c = .ok d ∧ r.final = some d := by
  obtain ⟨r, hr, hs⟩ : ∃ r, Sample.outcome = .ok r ∧ r.success = true := ⟨_, rfl, rfl⟩
  refine ⟨r, hr, hs, ?_⟩
  rcases (run_carries_changes true .standard Sample.clock Sample.trigger
    (.list [Sample.tagging, Sample.telling]) Sample.payload .null hr).1 with
    ⟨hf, -⟩ | ⟨type, ns, c, hstart, -, -, hc⟩
  · exact absurd hs (by simp [hf])
  · exact ⟨type, ns, c, hstart, hc hs⟩

end Run

end Automation
