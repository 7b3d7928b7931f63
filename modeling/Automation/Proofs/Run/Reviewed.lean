import Automation.Action.Standard
import Automation.Proofs.Run.Outcome

namespace Automation

def Actions.Leave (actions : Actions) : Prop :=
  ∀ type rules, (actions.find type).amend rules = rules

theorem Actions.standard_leave : Actions.standard.Leave := by
  intro type rules
  unfold Actions.find Actions.standard
  split <;> rfl

theorem Actions.Leave.put {actions : Actions} (h : actions.Leave) (type : String) {a : Action}
    (ha : ∀ rules, a.amend rules = rules) : (actions.put type a).Leave := by
  intro other rules
  by_cases ho : other = type
  · rw [ho, find_put_self]
    exact ha rules
  · rw [find_put_other actions a ho]
    exact h other rules

def Clock.Still (clock : Clock) : Prop := clock.later = []

theorem Clock.Still.read {clock : Clock} (h : clock.Still) : clock.read.2 = clock := by
  unfold Clock.Still at h
  simp only [Clock.read, h]

namespace Run

variable {actions : Actions} {s : Situation} {rules : Rules} {index : Nat} {c : Context} {n : Node}
  {ns : List Node}

theorem attempt_keeps_rules (h : actions.Leave) :
    (attempt actions s rules index c n).rules = rules := by
  unfold attempt
  split
  · rfl
  · rfl
  · dsimp only
    split
    · exact h n.type rules
    · exact h n.type rules

theorem course_keeps_rules (h : actions.Leave) :
    (course actions s rules index c ns).rules = rules := by
  induction ns generalizing index c rules with
  | nil => rfl
  | cons n ns ih =>
    have ha : (attempt actions s rules index c n).rules = rules := attempt_keeps_rules h
    simp only [course]
    split
    · exact ha
    · split
      · exact ha
      · exact ih.trans ha

end Run

namespace Engine

open Run

variable {e : Engine} {rules : Rules} {clock : Clock} {trigger nodes payload edges : Value}

theorem run_keeps_rules (h : e.actions.Leave) :
    (e.run rules clock trigger nodes payload edges).rules = rules := by
  unfold run
  dsimp only
  split
  · rfl
  · rfl
  · split <;> exact course_keeps_rules h

theorem run_keeps_clock (h : clock.Still) :
    (e.run rules clock trigger nodes payload edges).clock = clock := by
  have h₁ := h.read
  unfold run
  simp only [h₁]
  split
  · rfl
  · rfl
  · split <;> rfl

/-- A run has its workflow's issues as the reason why it was not begun, and otherwise tells of none.
-/
theorem run_stop {r : Result} {raw : List Value} {issues : List Issue}
    (hraw : nodes.elementsIfGiven = .ok raw) (hw : Review.workflow rules trigger raw = .ok issues)
    (h : (e.run rules clock trigger nodes payload edges).outcome = .ok r) :
    (∃ first more, issues = first :: more ∧
        r = invalid (triggerType trigger) clock.read.1.text first more) ∨
      issues = [] ∧ ∀ stop, r.stop = some stop → stop.issues = none := by
  rcases run_eq_ok_iff.mp h with ⟨first, more, hp, rfl⟩ | ⟨ns, c, steps, ending, hp, -, rfl⟩
  · obtain ⟨raw', hraw', -, hw'⟩ := prepare_eq_invalid_iff.mp hp
    obtain rfl : raw' = raw := Except.ok.inj (hraw'.symm.trans hraw)
    exact .inl ⟨first, more, Except.ok.inj (hw.symm.trans hw'), rfl⟩
  · obtain ⟨raw', t, hraw', -, hw', -⟩ := prepare_eq_ready_iff.mp hp
    obtain rfl : raw' = raw := Except.ok.inj (hraw'.symm.trans hraw)
    refine .inr ⟨Except.ok.inj (hw.symm.trans hw'), ?_⟩
    rintro stop hs
    cases ending with
    | completed d => cases hs
    | stopped n m =>
      cases hs
      rfl

end Engine

end Automation
