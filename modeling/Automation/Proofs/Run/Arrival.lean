import Automation.Proofs.Run.Policy

namespace Automation

namespace Run

structure Arrival where
  rules : Rules
  index : Nat
  context : Context
  node : Node

def Arrival.attempt (actions : Actions) (s : Situation) (a : Arrival) : Attempt :=
  Run.attempt actions s a.rules a.index a.context a.node

/-- What a run comes to: the first node, and the later ones as long as actions answer. -/
inductive Arrives (actions : Actions) (s : Situation) :
    Rules → Nat → Context → List Node → Arrival → Prop
  | here (rules : Rules) (index : Nat) (c : Context) (n : Node) (rest : List Node) :
      Arrives actions s rules index c (n :: rest) ⟨rules, index, c, n⟩
  | later {rules : Rules} {index : Nat} {c : Context} {n : Node} {o : Outcome} {b : Option Branch}
      {rest : List Node} {a : Arrival} (h : rules.check n = .ok [])
      (ha : (actions.find n.type).act n c s = .ok o) (hb : Step.branchReader o.branch = .good b)
      (hr : Arrives actions s ((actions.find n.type).amend rules) (index + 1) o.context rest a) :
      Arrives actions s rules index c (n :: rest) a

variable {actions : Actions} {s : Situation} {rules : Rules} {index : Nat} {c : Context} {n : Node}
  {ns : List Node} {steps : List Step} {ending : Ending} {a : Arrival} {step : Step}

theorem Arrives.node_mem (h : Arrives actions s rules index c ns a) : a.node ∈ ns := by
  induction h with
  | here => exact List.mem_cons_self
  | later _ _ _ _ ih => exact List.mem_cons_of_mem _ ih

theorem Arrives.getElem?_node (h : Arrives actions s rules index c ns a) :
    ∃ i, a.index = index + i ∧ ns[i]? = some a.node := by
  induction h with
  | here => exact ⟨0, rfl, rfl⟩
  | later _ _ _ _ ih =>
    obtain ⟨i, hindex, hn⟩ := ih
    exact ⟨i + 1, by omega, hn⟩

theorem Arrives.rules_eq (h : Arrives actions s rules index c ns a)
    (hstill : ∀ a, Arrives actions s rules index c ns a →
      (actions.find a.node.type).amend a.rules = a.rules) : a.rules = rules := by
  induction h with
  | here => rfl
  | @later rules index c n o b rest a hc ha hb _ ih =>
    -- What the first action leaves of the rules is what the later nodes are met with.
    have hfirst : (actions.find n.type).amend rules = rules := hstill _ (.here rules index c n rest)
    exact (ih fun a' ha' ↦ hstill a' (.later hc ha hb ha')).trans hfirst

theorem Goes.attempt_of_arrives (h : Goes actions s rules index c ns steps ending)
    (ha : Arrives actions s rules index c ns a) : ∃ i step d, a.index = index + i ∧
      steps[i]? = some step ∧ (a.attempt actions s).outcome = .ok (step, d) := by
  induction ha generalizing steps with
  | here =>
    cases h with
    | stop _ hf => exact ⟨0, _, _, rfl, rfl, attempt_eq_ok_iff.mpr (.inl ⟨_, hf, rfl, rfl⟩)⟩
    | next hc ho hb _ =>
      exact ⟨0, _, _, rfl, rfl, attempt_eq_ok_iff.mpr (.inr ⟨_, _, hc, ho, hb, rfl, rfl⟩)⟩
  | later hc ho hb _ ih =>
    cases h with
    | stop _ hf =>
      -- A run that came further did not fail here.
      cases hf with
      | amiss hm => cases hc.symm.trans hm
      | action _ hf _ => cases ho.symm.trans hf
    | next _ ho' _ hr =>
      obtain rfl := Except.ok.inj (ho.symm.trans ho')
      obtain ⟨i, step, d, hi, hs, hd⟩ := ih hr
      exact ⟨i + 1, step, d, by omega, hs, hd⟩

theorem Goes.arrives_of_step (h : Goes actions s rules index c ns steps ending) {i : Nat}
    (hi : steps[i]? = some step) : ∃ a d, Arrives actions s rules index c ns a ∧
      a.index = index + i ∧ (a.attempt actions s).outcome = .ok (step, d) := by
  induction h generalizing i with
  | done => simp at hi
  | @stop rules index c n m rest hf =>
    cases i with
    | zero =>
      cases hi
      exact ⟨_, _, .here .., rfl, attempt_eq_ok_iff.mpr (.inl ⟨m, hf, rfl, rfl⟩)⟩
    | succ i => simp at hi
  | next hc ho hb _ ih =>
    cases i with
    | zero =>
      cases hi
      exact ⟨_, _, .here .., rfl, attempt_eq_ok_iff.mpr (.inr ⟨_, _, hc, ho, hb, rfl, rfl⟩)⟩
    | succ i =>
      obtain ⟨a, d, ha, hindex, hd⟩ := ih hi
      exact ⟨a, d, .later hc ho hb ha, by omega, hd⟩

/-- A run goes on to an end exactly if it can take a step at each node that it comes to. -/
theorem goes_iff : (∃ steps ending, Goes actions s rules index c ns steps ending) ↔
    ∀ a, Arrives actions s rules index c ns a → ∃ p, (a.attempt actions s).outcome = .ok p := by
  constructor
  · rintro ⟨steps, ending, hg⟩ a ha
    obtain ⟨-, step, d, -, -, hd⟩ := hg.attempt_of_arrives ha
    exact ⟨_, hd⟩
  · -- The nodes after the first are come to only if its action answers, with what it leaves.
    intro h
    induction ns generalizing rules index c with
    | nil => exact ⟨[], _, .done rules index c⟩
    | cons n rest ih =>
      obtain ⟨⟨step, d⟩, hp⟩ := h _ (.here rules index c n rest)
      rcases attempt_eq_ok_iff.mp hp with ⟨m, hf, -, -⟩ | ⟨o, b, hc, ho, hb, -, -⟩
      · exact ⟨_, _, .stop rest hf⟩
      · obtain ⟨steps, ending, hg⟩ := ih fun a ha ↦ h a (.later hc ho hb ha)
        exact ⟨_, _, .next hc ho hb hg⟩

end Run

namespace Engine

open Run

abbrev situation (e : Engine) (clock : Clock) : Situation := ⟨clock.read.1, e.unknownCondition⟩

def Reaches (e : Engine) (rules : Rules) (clock : Clock) (trigger nodes payload edges : Value)
    (a : Arrival) : Prop :=
  ∃ ns c, (prepare rules clock.read.1 trigger nodes payload edges).outcome = .ok (.ready ns c) ∧
    Arrives e.actions (e.situation clock) rules 1 c ns a

variable {e : Engine} {rules : Rules} {clock : Clock} {trigger nodes payload edges : Value}
  {raw : List Value} {a : Arrival}

/-- The second look at a node finds nothing amiss, nor any other rule than the first. -/
theorem Reaches.check_eq (h : e.Reaches rules clock trigger nodes payload edges a)
    (hstill : ∀ a, e.Reaches rules clock trigger nodes payload edges a →
      (e.actions.find a.node.type).amend a.rules = a.rules) : a.rules.check a.node = .ok [] := by
  obtain ⟨ns, c, hp, ha⟩ := h
  obtain ⟨raw, -, -, -, hreview, -, hns, -⟩ := prepare_eq_ready_iff.mp hp
  rw [ha.rules_eq fun a' ha' ↦ hstill a' ⟨ns, c, hp, ha'⟩]
  exact Review.check_of_workflow hreview hns a.node ha.node_mem

theorem run_isOk_iff {ns : List Node} {c : Context}
    (hp : (prepare rules clock.read.1 trigger nodes payload edges).outcome = .ok (.ready ns c)) :
    (∃ r, (e.run rules clock trigger nodes payload edges).outcome = .ok r) ↔
      ∀ a, e.Reaches rules clock trigger nodes payload edges a →
        ∃ p, (a.attempt e.actions (e.situation clock)).outcome = .ok p := by
  have hgoes : (∃ r, (e.run rules clock trigger nodes payload edges).outcome = .ok r) ↔
      ∃ steps ending, Goes e.actions (e.situation clock) rules 1 c ns steps ending := by
    constructor
    · rintro ⟨r, hr⟩
      rcases run_eq_ok_iff.mp hr with ⟨_, _, hp', -⟩ | ⟨ns', c', steps, ending, hp', hg, -⟩
      · cases hp.symm.trans hp'
      · cases hp.symm.trans hp'
        exact ⟨steps, ending, hg⟩
    · rintro ⟨steps, ending, hg⟩
      exact ⟨_, run_of_ready hp hg⟩
  rw [hgoes, goes_iff]
  constructor
  · rintro h a ⟨ns', c', hp', ha⟩
    cases hp.symm.trans hp'
    exact h a ha
  · exact fun h a ha ↦ h a ⟨ns, c, hp, ha⟩

theorem Reaches.step {r : Result} (h : e.Reaches rules clock trigger nodes payload edges a)
    (hr : (e.run rules clock trigger nodes payload edges).outcome = .ok r) :
    ∃ i step d, a.index = i + 1 ∧ r.steps[i]? = some step ∧
      (a.attempt e.actions (e.situation clock)).outcome = .ok (step, d) := by
  obtain ⟨ns, c, hp, ha⟩ := h
  rcases run_eq_ok_iff.mp hr with ⟨_, _, hp', -⟩ | ⟨ns', c', steps, ending, hp', hg, rfl⟩
  · cases hp.symm.trans hp'
  · cases hp.symm.trans hp'
    obtain ⟨i, step, d, hi, hstep, hd⟩ := hg.attempt_of_arrives ha
    rw [Ending.steps_result]
    exact ⟨i, step, d, by omega, hstep, hd⟩

theorem reaches_of_step {r : Result} {i : Nat} {step : Step}
    (hr : (e.run rules clock trigger nodes payload edges).outcome = .ok r)
    (hi : r.steps[i]? = some step) : ∃ a d, e.Reaches rules clock trigger nodes payload edges a ∧
      a.index = i + 1 ∧ (a.attempt e.actions (e.situation clock)).outcome = .ok (step, d) := by
  rcases run_eq_ok_iff.mp hr with ⟨_, _, -, rfl⟩ | ⟨ns, c, steps, ending, hp, hg, rfl⟩
  · cases hi
  · rw [Ending.steps_result] at hi
    obtain ⟨a, d, ha, hindex, hd⟩ := hg.arrives_of_step hi
    exact ⟨a, d, ⟨ns, c, hp, ha⟩, by omega, hd⟩

end Engine

end Automation
