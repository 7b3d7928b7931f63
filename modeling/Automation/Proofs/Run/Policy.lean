import Automation.Proofs.Run.Reviewed
import Automation.Proofs.Run.Shape
import Automation.Proofs.Workflow.Issues

namespace Automation

namespace Condition

variable {cfg : Fields} {k : Option Condition}

def names : List String :=
  ["has_tag", "email_opened", "link_clicked", "no_response", "opp_value_gt", "contact_status"]

theorem ofName?_eq_none_iff {name : String} : ofName? name = none ↔ name ∉ names := by
  unfold ofName? names
  split <;> simp_all

theorem ofConfig?_eq_none_iff : ofConfig? cfg = .ok none ↔
    (∀ name ∈ names, cfg.get "condition_type" ≠ .text name) ∧ ∃ k, ofConfig? cfg = .ok k := by
  unfold ofConfig?
  cases cfg.get "condition_type" with
  | text name => simp [ofName?_eq_none_iff, List.forall_mem_ne]
  | list vs => exact iff_of_false (fun h ↦ nomatch h) fun ⟨_, _, h⟩ ↦ nomatch h
  | object fs => exact iff_of_false (fun h ↦ nomatch h) fun ⟨_, _, h⟩ ↦ nomatch h
  | _ => exact iff_of_true rfl ⟨fun _ _ ↦ Value.noConfusion, none, rfl⟩

theorem ofConfig?_of_rule (h : Rule.condition cfg = .ok []) : ∃ k, ofConfig? cfg = .ok k := by
  unfold Rule.condition at h
  unfold ofConfig?
  cases hv : cfg.get "condition_type" with
  | list vs =>
    -- The rule asks for a name first, and then looks it up, which no list can be.
    simp only [hv] at h
    split at h <;> cases h
  | object fs =>
    simp only [hv] at h
    split at h <;> cases h
  | text name => exact ⟨_, rfl⟩
  | _ => exact ⟨none, rfl⟩

end Condition

def Branch.ofAnswer : Bool → Branch
  | true => .yes
  | false => .no

namespace Node

def AsksUnknown (n : Node) : Prop :=
  n.type = "condition" ∧ ∀ name ∈ Condition.names, n.config.get "condition_type" ≠ .text name

variable {n : Node} {c : Context}

theorem asks_of_unknown (h : Condition.ofConfig? n.config = .ok none) (answer : Bool) :
    n.asks c answer = .ok answer := by
  simp only [asks, h]
  rfl

theorem asks_of_known (h : Condition.ofConfig? n.config ≠ .ok none) (p q : Bool) :
    n.asks c p = n.asks c q := by
  unfold asks
  cases hk : Condition.ofConfig? n.config with
  | error f => rfl
  | ok k =>
    cases k with
    | none => exact absurd hk h
    | some k => rfl

end Node

/-- An action that makes nothing of the answer to conditions that are not known. -/
def Action.Heedless (a : Action) : Prop :=
  ∀ n c now p q, a.act n c ⟨now, p⟩ = a.act n c ⟨now, q⟩

namespace Actions

variable {n : Node}

theorem standard_heedless {type : String} (h : type ≠ "condition") :
    (standard.find type).Heedless := by
  unfold find standard
  split
  case h_15 => exact absurd rfl h
  all_goals exact fun _ _ _ _ _ ↦ rfl

theorem act_of_not_asksUnknown (h : ¬ n.AsksUnknown) (c : Context) (now : Instant) (p q : Bool) :
    (standard.find n.type).act n c ⟨now, p⟩ = (standard.find n.type).act n c ⟨now, q⟩ := by
  by_cases htype : n.type = "condition"
  · have hknown : Condition.ofConfig? n.config ≠ .ok none :=
      fun hk ↦ h ⟨htype, (Condition.ofConfig?_eq_none_iff.mp hk).1⟩
    have hasks : n.asks c p = n.asks c q := Node.asks_of_known hknown p q
    rw [htype]
    exact congrArg (Except.map _) hasks
  · exact standard_heedless htype n c now p q

theorem act_of_asksUnknown (h : n.AsksUnknown) (hclean : Rules.standard.check n = .ok [])
    (c : Context) (now : Instant) (p : Bool) :
    ∃ output, (standard.find n.type).act n c ⟨now, p⟩ =
      .ok { context := c, output, branch := .text (Branch.ofAnswer p).name } := by
  obtain ⟨htype, hnames⟩ := h
  have hrule : Rule.condition n.config = .ok [] := by
    unfold Rules.check at hclean
    rwa [htype] at hclean
  have hnone : Condition.ofConfig? n.config = .ok none :=
    Condition.ofConfig?_eq_none_iff.mpr ⟨hnames, Condition.ofConfig?_of_rule hrule⟩
  have hasks : n.asks c p = .ok p := Node.asks_of_unknown hnone p
  rw [htype]
  cases p with
  | true => exact ⟨_, congrArg (Except.map _) hasks⟩
  | false => exact ⟨_, congrArg (Except.map _) hasks⟩

end Actions

/-- A step at a node under the answer `p`, and the one there under the answer `q`. They differ in
what is told of a condition that is not known. -/
structure Step.Agree (n : Node) (p q : Bool) (s t : Step) : Prop where
  nodeId : s.nodeId = t.nodeId
  nodeType : s.nodeType = t.nodeType
  index : s.index = t.index
  status : s.status = t.status
  error : s.error = t.error
  after : s.after = t.after
  told : ¬ n.AsksUnknown → s.output = t.output ∧ s.branch = t.branch
  answered : n.AsksUnknown →
    s.branch = some (Branch.ofAnswer p) ∧ t.branch = some (Branch.ofAnswer q)

namespace Step

variable {n : Node} {ns : List Node} {p q : Bool} {s t : Step} {ss ts : List Step}

theorem Agree.refl (h : ¬ n.AsksUnknown) (s : Step) : Agree n p q s s :=
  ⟨rfl, rfl, rfl, rfl, rfl, rfl, fun _ ↦ ⟨rfl, rfl⟩, fun hu ↦ absurd hu h⟩

theorem branchReader_ofAnswer (p : Bool) :
    branchReader (.text (Branch.ofAnswer p).name) = .good (some (Branch.ofAnswer p)) := by
  cases p <;> rfl

structure AllAgree (ns : List Node) (p q : Bool) (ss ts : List Step) : Prop where
  length : ss.length = ts.length
  steps : ∀ (i : Nat) (s t : Step), ss[i]? = some s → ts[i]? = some t →
    ∃ n, ns[i]? = some n ∧ Agree n p q s t

theorem AllAgree.nil (ns : List Node) : AllAgree ns p q [] [] := ⟨rfl, fun i s t hs ↦ by simp at hs⟩

theorem AllAgree.cons (h : Agree n p q s t) (hs : AllAgree ns p q ss ts) :
    AllAgree (n :: ns) p q (s :: ss) (t :: ts) := by
  refine ⟨congrArg (· + 1) hs.length, fun i s' t' hi hi' ↦ ?_⟩
  cases i with
  | zero =>
    cases hi
    cases hi'
    exact ⟨n, rfl, h⟩
  | succ i => exact hs.steps i s' t' hi hi'

end Step

namespace Run

open Actions

variable {rules : Rules} {index : Nat} {now : Instant} {c : Context} {n : Node} {ns : List Node}
  {steps : List Step} {ending : Ending} {o : Outcome} {b : Option Branch} {m : String} {p q : Bool}

theorem Fails.under (hclean : Rules.standard.check n = .ok [])
    (h : Fails .standard ⟨now, p⟩ .standard c n m) (q : Bool) :
    ¬ n.AsksUnknown ∧ Fails .standard ⟨now, q⟩ .standard c n m := by
  cases h with
  | amiss hc => cases hclean.symm.trans hc
  | action hc ha hm =>
    have hknown : ¬ n.AsksUnknown := by
      intro hu
      obtain ⟨output, hanswer⟩ := act_of_asksUnknown hu hclean c now p
      cases ha.symm.trans hanswer
    exact ⟨hknown, .action hc ((act_of_not_asksUnknown hknown c now p q).symm.trans ha) hm⟩

theorem answers_under (hclean : Rules.standard.check n = .ok [])
    (ha : (standard.find n.type).act n c ⟨now, p⟩ = .ok o)
    (hb : Step.branchReader o.branch = .good b)
    (q : Bool) : ∃ o' b', (standard.find n.type).act n c ⟨now, q⟩ = .ok o' ∧
      Step.branchReader o'.branch = .good b' ∧ o'.context = o.context ∧
      Step.Agree n p q (.answering n index o.output b o.context)
        (.answering n index o'.output b' o'.context) := by
  by_cases hu : n.AsksUnknown
  · obtain ⟨output, hp⟩ := act_of_asksUnknown hu hclean c now p
    obtain ⟨output', hq⟩ := act_of_asksUnknown hu hclean c now q
    obtain rfl := Except.ok.inj (ha.symm.trans hp)
    have hbranch : b = some (Branch.ofAnswer p) :=
      Schema.Checked.good.inj (hb.symm.trans (Step.branchReader_ofAnswer p))
    refine ⟨_, _, hq, Step.branchReader_ofAnswer q, rfl, ?_⟩
    exact ⟨rfl, rfl, rfl, rfl, rfl, rfl, fun hknown ↦ absurd hu hknown, fun _ ↦ ⟨hbranch, rfl⟩⟩
  · exact ⟨o, b, (act_of_not_asksUnknown hu c now p q).symm.trans ha, hb, rfl, .refl hu _⟩

theorem Goes.under (h : Goes .standard ⟨now, p⟩ rules index c ns steps ending)
    (hrules : rules = .standard) (hclean : ∀ n ∈ ns, Rules.standard.check n = .ok []) (q : Bool) :
    ∃ steps', Goes .standard ⟨now, q⟩ rules index c ns steps' ending ∧
      Step.AllAgree ns p q steps steps' := by
  induction h with
  | done => exact ⟨[], .done _ _ _, .nil []⟩
  | stop rest hf =>
    subst hrules
    obtain ⟨hknown, hf'⟩ := hf.under (hclean _ List.mem_cons_self) q
    exact ⟨_, .stop rest hf', .cons (.refl hknown _) (.nil rest)⟩
  | next hc ha hb _ ih =>
    rw [List.forall_mem_cons] at hclean
    obtain ⟨steps', hg, hsteps⟩ := ih ((standard_leave _ _).trans hrules) hclean.2
    obtain ⟨o', b', ha', hb', hcontext, hstep⟩ := answers_under hclean.1 ha hb q
    -- The steps may differ, but what the rest of the run starts from does not.
    rw [← hcontext] at hg
    exact ⟨_, .next hc ha' hb' hg, .cons hstep hsteps⟩

end Run

theorem Review.check_of_workflow {rules : Rules} {trigger : Value} {raw : List Value}
    {ns : List Node} (hw : workflow rules trigger raw = .ok [])
    (hns : raw.mapM Node.ofValue = .ok ns) : ∀ n ∈ ns, rules.check n = .ok [] := by
  obtain ⟨more, hmore, hnil⟩ := workflow_eq_ok_iff.mp hw
  obtain ⟨-, rfl⟩ := List.append_eq_nil_iff.mp hnil.symm
  intro n hn
  obtain ⟨v, hv, hread⟩ := exists_of_mapM hns hn
  obtain ⟨-, -, hmessages⟩ := (nodes_eq_nil_iff hmore).mp rfl v hv
  rwa [messages_of_read hread] at hmessages

structure Result.Agree (raw : List Value) (p q : Bool) (r r' : Result) : Prop where
  success : r.success = r'.success
  triggerType : r.triggerType = r'.triggerType
  startedAt : r.startedAt = r'.startedAt
  completedAt : r.completedAt = r'.completedAt
  final : r.final = r'.final
  stop : r.stop = r'.stop
  length : r.steps.length = r'.steps.length
  steps : ∀ i s t, r.steps[i]? = some s → r'.steps[i]? = some t →
    ∃ n, NodeAt raw i n ∧ Step.Agree n p q s t

namespace Engine

open Run

variable {clock : Clock} {trigger nodes payload edges : Value} {r r' : Result} {p q : Bool}

theorem run_under (q : Bool)
    (h : (Engine.run { unknownCondition := p } .standard clock trigger nodes payload
      edges).outcome = .ok r) :
    ∃ r', (Engine.run { unknownCondition := q } .standard clock trigger nodes payload
        edges).outcome = .ok r' ∧
      ∃ raw, nodes.elementsIfGiven = .ok raw ∧ r.Agree raw p q r' := by
  rcases run_eq_ok_iff.mp h with ⟨first, more, hp, rfl⟩ | ⟨ns, c, steps, ending, hp, hg, rfl⟩
  · obtain ⟨raw, hraw, -⟩ := prepare_eq_invalid_iff.mp hp
    refine ⟨_, run_of_invalid hp, raw, hraw, rfl, rfl, rfl, rfl, rfl, rfl, rfl, ?_⟩
    rintro i s t ⟨⟩
  · obtain ⟨raw, t, hraw, -, hw, -, hns, -⟩ := prepare_eq_ready_iff.mp hp
    have hclean := Review.check_of_workflow hw hns
    obtain ⟨steps', hg', hagree⟩ := hg.under rfl hclean q
    refine ⟨_, run_of_ready hp hg', raw, hraw, ?_⟩
    have hsteps : ∀ i s t, steps[i]? = some s → steps'[i]? = some t →
        ∃ n, Result.NodeAt raw i n ∧ Step.Agree n p q s t := by
      intro i s t hs ht
      obtain ⟨n, hn, hst⟩ := hagree.steps i s t hs ht
      exact ⟨n, Result.nodeAt_of_mapM hns hn, hst⟩
    cases ending with
    | completed d => exact ⟨rfl, rfl, rfl, rfl, rfl, rfl, hagree.length, hsteps⟩
    | stopped n m => exact ⟨rfl, rfl, rfl, rfl, rfl, rfl, hagree.length, hsteps⟩

/-- The answer to conditions that are not known is told and nothing else. Runs under either answer
have results together; these agree but for the output and the branch at the nodes that ask such a
condition, where the branch is the answer. -/
theorem unknown_condition_only_told (clock : Clock) (trigger nodes payload edges : Value) :
    ((∃ r, (Engine.run { unknownCondition := true } .standard clock trigger nodes payload
        edges).outcome = .ok r) ↔
      ∃ r', (Engine.run { unknownCondition := false } .standard clock trigger nodes payload
        edges).outcome = .ok r') ∧
      ∀ r r', (Engine.run { unknownCondition := true } .standard clock trigger nodes payload
          edges).outcome = .ok r →
        (Engine.run { unknownCondition := false } .standard clock trigger nodes payload
          edges).outcome = .ok r' →
        ∃ raw, nodes.elementsIfGiven = .ok raw ∧ r.Agree raw true false r' := by
  refine ⟨⟨fun ⟨r, h⟩ ↦ ?_, fun ⟨r', h'⟩ ↦ ?_⟩, fun r r' h h' ↦ ?_⟩
  · obtain ⟨r', h', -⟩ := run_under false h
    exact ⟨r', h'⟩
  · obtain ⟨r, h, -⟩ := run_under true h'
    exact ⟨r, h⟩
  · obtain ⟨r'', h'', hagree⟩ := run_under false h
    obtain rfl : r'' = r' := Except.ok.inj (h''.symm.trans h')
    exact hagree

end Engine

namespace Sample

def wondering : Value := .object [("id", .text "n4"), ("type", .text "condition"),
  ("config", .object [("condition_type", .text "full_moon")])]

end Sample

set_option maxRecDepth 10000 in
theorem Engine.unknown_condition_only_told_sample : ∃ r r',
    (Engine.run { unknownCondition := true } .standard Sample.clock Sample.trigger
      (.list [Sample.wondering, Sample.tagging]) Sample.payload .null).outcome = .ok r ∧
    (Engine.run { unknownCondition := false } .standard Sample.clock Sample.trigger
      (.list [Sample.wondering, Sample.tagging]) Sample.payload .null).outcome = .ok r' ∧
    r.steps.map Step.branch = [some .yes, none] ∧ r'.steps.map Step.branch = [some .no, none] ∧
    ∃ raw, (Value.list [Sample.wondering, Sample.tagging]).elementsIfGiven = .ok raw ∧
      r.Agree raw true false r' := by
  obtain ⟨r, r', h, h', hb, hb'⟩ : ∃ r r',
      (Engine.run { unknownCondition := true } .standard Sample.clock Sample.trigger
        (.list [Sample.wondering, Sample.tagging]) Sample.payload .null).outcome = .ok r ∧
      (Engine.run { unknownCondition := false } .standard Sample.clock Sample.trigger
        (.list [Sample.wondering, Sample.tagging]) Sample.payload .null).outcome = .ok r' ∧
      r.steps.map Step.branch = [some .yes, none] ∧ r'.steps.map Step.branch = [some .no, none] :=
    ⟨_, _, rfl, rfl, rfl, rfl⟩
  exact ⟨r, r', h, h', hb, hb', (unknown_condition_only_told Sample.clock Sample.trigger
    (.list [Sample.wondering, Sample.tagging]) Sample.payload .null).2 r r' h h'⟩

end Automation
