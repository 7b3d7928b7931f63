import Automation.Proofs.Faulty
import Automation.Run.Engine

namespace Automation

namespace Step

def answering (n : Node) (index : Nat) (output : Value) (branch : Option Branch) (after : Context) :
    Step :=
  { nodeId := n.id, nodeType := n.type, index, status := .success, output, branch
    after := some after }

def failing (n : Node) (index : Nat) (message : String) : Step :=
  { nodeId := n.id, nodeType := n.type, index, status := .error, error := some message }

theorem ofAnswer_eq_ok_iff {n : Node} {index : Nat} {output branch : Value} {after : Context}
    {s : Step} : ofAnswer n index output branch after = .ok s ↔
      ∃ b, branchReader branch = .good b ∧ s = answering n index output b after := by
  unfold ofAnswer answering
  cases branchReader branch <;>
    simp [Schema.Checked.within, Schema.Checked.map, Schema.Checked.toExcept, eq_comm]

theorem ofFault_eq_ok_iff {n : Node} {index : Nat} {statement : Value} {s : Step} :
    ofFault n index statement = .ok s ↔ ∃ m, statement = .text m ∧ s = failing n index m := by
  unfold ofFault failing
  cases statement <;>
    simp [Schema.Reader.text, Schema.Checked.flawed, Schema.Checked.within, Schema.Checked.map,
      Schema.Checked.toExcept, eq_comm]

end Step

namespace Run

variable (actions : Actions) (s : Situation)

/-- What is said of a fault in a step, nothing said being an unknown error. -/
def said (f : Fault) : Value := (statement f).orElse (.text "Unknown error")

inductive Fails (rules : Rules) (c : Context) (n : Node) : String → Prop
  | amiss {m : String} {ms : List String} (h : rules.check n = .ok (m :: ms)) :
      Fails rules c n (Value.joinWith "; " (m :: ms))
  | action {f : Fault} {m : String} (h : rules.check n = .ok [])
      (ha : (actions.find n.type).act n c s = .error f) (hm : said f = .text m) : Fails rules c n m

/-- How a run goes through nodes, the first of them at a position, to its steps and its ending. -/
inductive Goes : Rules → Nat → Context → List Node → List Step → Ending → Prop
  | done (rules : Rules) (index : Nat) (c : Context) : Goes rules index c [] [] (.completed c)
  | stop {rules : Rules} {index : Nat} {c : Context} {n : Node} {m : String} (rest : List Node)
      (h : Fails actions s rules c n m) :
      Goes rules index c (n :: rest) [.failing n index m] (.stopped n m)
  | next {rules : Rules} {index : Nat} {c : Context} {n : Node} {o : Outcome} {b : Option Branch}
      {rest : List Node} {steps : List Step} {ending : Ending} (h : rules.check n = .ok [])
      (ha : (actions.find n.type).act n c s = .ok o) (hb : Step.branchReader o.branch = .good b)
      (hr : Goes ((actions.find n.type).amend rules) (index + 1) o.context rest steps ending) :
      Goes rules index c (n :: rest) (.answering n index o.output b o.context :: steps) ending

variable {actions s} {rules : Rules} {index : Nat} {c d : Context} {n : Node} {step : Step}

theorem ofFault_then_eq_ok_iff {v : Value} :
    checked ((Step.ofFault n index v).map (·, c)) = .ok (step, d) ↔
      ∃ m, v = .text m ∧ step = .failing n index m ∧ d = c := by
  simp only [checked, mapError_eq_ok_iff, map_eq_ok_iff, Step.ofFault_eq_ok_iff, Prod.mk.injEq]
  constructor
  · rintro ⟨t, ⟨m, hm, rfl⟩, rfl, rfl⟩
    exact ⟨m, hm, rfl, rfl⟩
  · rintro ⟨m, hm, rfl, rfl⟩
    exact ⟨_, ⟨m, hm, rfl⟩, rfl, rfl⟩

theorem ofAnswer_then_eq_ok_iff {output branch : Value} {after : Context} :
    checked ((Step.ofAnswer n index output branch after).map (·, after)) = .ok (step, d) ↔
      ∃ b, Step.branchReader branch = .good b ∧ step = .answering n index output b after ∧
        d = after := by
  simp only [checked, mapError_eq_ok_iff, map_eq_ok_iff, Step.ofAnswer_eq_ok_iff, Prod.mk.injEq]
  constructor
  · rintro ⟨t, ⟨b, hb, rfl⟩, rfl, rfl⟩
    exact ⟨b, hb, rfl, rfl⟩
  · rintro ⟨b, hb, rfl, rfl⟩
    exact ⟨_, ⟨b, hb, rfl⟩, rfl, rfl⟩

/-- At a node a run either fails and keeps its context, or goes on with that of the action. -/
theorem attempt_eq_ok_iff : (attempt actions s rules index c n).outcome = .ok (step, d) ↔
    (∃ m, Fails actions s rules c n m ∧ step = .failing n index m ∧ d = c) ∨
    ∃ o b, rules.check n = .ok [] ∧ (actions.find n.type).act n c s = .ok o ∧
      Step.branchReader o.branch = .good b ∧ step = .answering n index o.output b o.context ∧
      d = o.context := by
  constructor
  · intro h
    simp only [attempt] at h
    split at h
    · cases h
    · next m ms hc =>
      simp only [rejected, ofFault_then_eq_ok_iff] at h
      obtain ⟨m', hm, hs, hd⟩ := h
      exact .inl ⟨m', Value.text.inj hm ▸ .amiss hc, hs, hd⟩
    · next hc =>
      split at h
      · next f ha =>
        simp only [failed, ofFault_then_eq_ok_iff] at h
        obtain ⟨m, hm, hs, hd⟩ := h
        exact .inl ⟨m, .action hc ha hm, hs, hd⟩
      · next o ha =>
        simp only [answered, ofAnswer_then_eq_ok_iff] at h
        obtain ⟨b, hb, hs, hd⟩ := h
        exact .inr ⟨o, b, hc, ha, hb, hs, hd⟩
  · rintro (⟨m, hf, hs, hd⟩ | ⟨o, b, hc, ha, hb, hs, hd⟩)
    · cases hf with
      | @amiss m ms hc =>
        simp only [attempt, hc]
        exact ofFault_then_eq_ok_iff.mpr ⟨_, rfl, hs, hd⟩
      | @action f m hc ha hm =>
        simp only [attempt, hc, ha]
        exact ofFault_then_eq_ok_iff.mpr ⟨_, hm, hs, hd⟩
    · simp only [attempt, hc, ha]
      exact ofAnswer_then_eq_ok_iff.mpr ⟨b, hb, hs, hd⟩

theorem attempt_rules {o : Outcome} (hc : rules.check n = .ok [])
    (ha : (actions.find n.type).act n c s = .ok o) :
    (attempt actions s rules index c n).rules = (actions.find n.type).amend rules := by
  simp only [attempt, hc, ha, answered]

theorem course_eq_ok_iff {ns : List Node} {steps : List Step} {ending : Ending} :
    (course actions s rules index c ns).outcome = .ok (steps, ending) ↔
      Goes actions s rules index c ns steps ending := by
  constructor
  · intro h
    induction ns generalizing rules index c steps ending with
    | nil =>
      simp only [course, Except.ok.injEq, Prod.mk.injEq] at h
      obtain ⟨rfl, rfl⟩ := h
      exact .done rules index c
    | cons n rest ih =>
      simp only [course] at h
      cases ha : (attempt actions s rules index c n).outcome with
      | error f => simp [ha] at h
      | ok p =>
        obtain ⟨step, d⟩ := p
        rcases attempt_eq_ok_iff.mp ha with ⟨m, hf, rfl, rfl⟩ | ⟨o, b, hc, ho, hb, rfl, rfl⟩
        · simp only [ha, Step.failing, Except.ok.injEq, Prod.mk.injEq] at h
          obtain ⟨rfl, rfl⟩ := h
          exact .stop rest hf
        · simp only [ha, Step.answering] at h
          rw [attempt_rules hc ho] at h
          cases hr : (course actions s ((actions.find n.type).amend rules) (index + 1) o.context
              rest).outcome with
          | error f => simp [hr, Except.map] at h
          | ok q =>
            simp only [hr, Except.map, Except.ok.injEq, Prod.mk.injEq] at h
            obtain ⟨rfl, rfl⟩ := h
            exact .next hc ho hb (ih hr)
  · intro h
    induction h with
    | done => rfl
    | stop rest hf =>
      simp only [course, attempt_eq_ok_iff.mpr (.inl ⟨_, hf, rfl, rfl⟩)]
      rfl
    | next hc ho hb _ ih =>
      simp only [course, attempt_eq_ok_iff.mpr (.inr ⟨_, _, hc, ho, hb, rfl, rfl⟩),
        attempt_rules hc ho, ih]
      rfl

end Run

end Automation
