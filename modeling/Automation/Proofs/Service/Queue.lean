import Automation.Proofs.Run.Reviewed
import Automation.Service.Endpoint
import Mathlib.Data.List.Forall2

namespace Automation

theorem intText_ofNat_injective {m n : Nat} (h : intText m = intText n) : m = n := by
  have hd : natDigits m = natDigits n := by
    simpa [intText, Int.not_lt.mpr (Int.natCast_nonneg _)] using congrArg String.toList h
  calc m = Nat.ofDigitChars 10 (natDigits m) 0 := Nat.ofDigitChars_ten_toDigits.symm
    _ = Nat.ofDigitChars 10 (natDigits n) 0 := by rw [hd]
    _ = n := Nat.ofDigitChars_ten_toDigits

namespace Task

variable {env : Environment} {actions : Actions} {rules : Rules} {clock : Clock} {id : String}
  {definition payload : Value}

theorem run_keeps_rules (h : actions.Leave) :
    (run env actions rules clock id definition payload).rules = rules := by
  unfold run
  split
  · rfl
  · dsimp only
    unfold Engine.runDefinition
    split
    · exact Engine.run_keeps_rules h
    · rfl

theorem run_keeps_clock (h : clock.Still) :
    (run env actions rules clock id definition payload).clock = clock := by
  unfold run
  split
  · rfl
  · dsimp only
    unfold Engine.runDefinition
    split
    · exact Engine.run_keeps_clock h
    · rfl

theorem run_of_sent (w : Service.Sent) :
    (run env actions rules clock id w.definition payload).outcome =
    (Settings.ofEnvironment env).bind fun settings ↦
      ((Engine.run ⟨actions, settings.unknownCondition⟩ rules clock (.object w.trigger)
        (.list w.nodeValues) (payload.orElse (.object [])) (.list w.edgeValues)).outcome).bind
          kept := by
  unfold run
  cases Settings.ofEnvironment env with
  | error f => rfl
  | ok settings => rfl

end Task

namespace Service

def taskName (tasks : Nat) : String := "task-" ++ intText (tasks + 1)

theorem taskName_injective {m n : Nat} (h : taskName m = taskName n) : m = n := by
  unfold taskName at h
  have he := intText_ofNat_injective (m := m + 1) (n := n + 1) (by simpa using h)
  omega

structure Ran where
  id : String
  clock : Clock
  payload : Value
  outcome : Except Fault Value

namespace State

def after (s : State) (t : Task.Finished) : State :=
  { s with
    rules := t.rules
    clock := t.clock
    tasks := s.tasks + 1
    states := s.states.put (taskName s.tasks) (.ofOutcome t.outcome) }

variable {s : State}

@[simp] theorem after_rules (t : Task.Finished) : (s.after t).rules = t.rules := rfl

@[simp] theorem after_clock (t : Task.Finished) : (s.after t).clock = t.clock := rfl

/-- The ids that are given next are new: no task is known to have succeeded under them. -/
def Fresh (s : State) : Prop :=
  ∀ k, s.tasks ≤ k → (s.states.find (taskName k)).name ≠ "SUCCESS"

theorem fresh_of_nil (h : s.states = []) : s.Fresh := by
  intro k _
  have hp : (TaskStates.find [] (taskName k)).name = "PENDING" := rfl
  simp [h, hp]

theorem Fresh.find_after (h : s.Fresh) (t : Task.Finished) :
    (s.after t).states.find (taskName s.tasks) = .ofOutcome t.outcome := by
  simp only [after, TaskStates.find_put, true_and, h s.tasks (Nat.le_refl _), ne_eq,
    not_false_eq_true, if_true]

theorem find_after_other {k : Nat} (t : Task.Finished) (h : k ≠ s.tasks) :
    (s.after t).states.find (taskName k) = s.states.find (taskName k) := by
  have hn : taskName k ≠ taskName s.tasks := fun he ↦ h (taskName_injective he)
  simp only [after, TaskStates.find_put, hn, false_and, if_false]

theorem Fresh.after (h : s.Fresh) (t : Task.Finished) : (s.after t).Fresh := by
  intro k hk
  have hk : s.tasks + 1 ≤ k := hk
  rw [find_after_other t (by omega)]
  exact h k (by omega)

end State

def taskAt (c : Configuration) (definition : Value) (s : State) (payload : Value) : Task.Finished :=
  Task.run c.environment c.actions s.rules s.clock (taskName s.tasks) definition payload

theorem taskAt_keeps_rules {c : Configuration} {definition payload : Value} {s : State}
    (h : c.actions.Leave) : (taskAt c definition s payload).rules = s.rules := by
  unfold taskAt
  exact Task.run_keeps_rules h

theorem taskAt_keeps_clock {c : Configuration} {definition payload : Value} {s : State}
    (h : s.clock.Still) : (taskAt c definition s payload).clock = s.clock := by
  unfold taskAt
  exact Task.run_keeps_clock h

/-- How tasks are run for payloads, each in the state that those before it leave. -/
inductive Queues (c : Configuration) (definition : Value) :
    State → List Fields → List Ran → State → Prop
  | done (s : State) : Queues c definition s [] [] s
  | next {s s' : State} {p : Fields} {payload : Value} {rest : List Fields} {rans : List Ran}
      (hp : Envelope.opened (.object p) = .ok payload)
      (hr : Queues c definition (s.after (taskAt c definition s payload)) rest rans s') :
      Queues c definition s (p :: rest)
        (⟨taskName s.tasks, s.clock, payload, (taskAt c definition s payload).outcome⟩ :: rans) s'

variable {c : Configuration} {definition sent : Value} {s s' : State} {payloads : List Fields}
  {rans : List Ran}

theorem queueOne_eq {p : Fields} {payload : Value} (hd : Envelope.opened sent = .ok definition)
    (hp : Envelope.opened (.object p) = .ok payload) : queueOne c sent s p =
      .ok (s.after (taskAt c definition s payload), (taskAt c definition s payload).records,
        taskName s.tasks) := by
  unfold queueOne
  rw [hd, hp]
  rfl

theorem queue_eq_ok_iff {ids : List String} (hd : Envelope.opened sent = .ok definition) :
    (∃ records, queue c sent s payloads = (s', records, .ok ids)) ↔
      ∃ rans, Queues c definition s payloads rans s' ∧ ids = rans.map Ran.id := by
  induction payloads generalizing s ids with
  | nil =>
    simp only [queue, Prod.mk.injEq, Except.ok.injEq]
    constructor
    · rintro ⟨-, rfl, -, rfl⟩
      exact ⟨[], .done s, rfl⟩
    · rintro ⟨rans, h, rfl⟩
      cases h
      exact ⟨[], rfl, rfl, rfl⟩
  | cons p rest ih =>
    constructor
    · rintro ⟨records, h⟩
      cases hp : Envelope.opened (.object p) with
      | error f => simp [queue, queueOne, hd, hp, bind, Except.bind] at h
      | ok payload =>
        simp only [queue, queueOne_eq hd hp] at h
        rcases hq : queue c sent (s.after (taskAt c definition s payload)) rest with ⟨t, more, out⟩
        simp only [hq, Prod.mk.injEq, map_eq_ok_iff] at h
        obtain ⟨rfl, -, more', rfl, rfl⟩ := h
        obtain ⟨rans, hr, rfl⟩ := ih.mp ⟨_, hq⟩
        exact ⟨_, .next hp hr, rfl⟩
    · rintro ⟨rans, h, rfl⟩
      cases h with
      | @next _ _ _ payload _ rans hp hr =>
        obtain ⟨records, hq⟩ := ih.mpr ⟨rans, hr, rfl⟩
        refine ⟨(taskAt c definition s payload).records ++ records, ?_⟩
        simp only [queue, queueOne_eq hd hp, hq]
        rfl

theorem Queues.outcome_eq (h : Queues c definition s payloads rans s') (hl : c.actions.Leave) :
    ∀ r ∈ rans, r.outcome = (Task.run c.environment c.actions s.rules r.clock r.id definition
      r.payload).outcome := by
  induction h with
  | done => simp
  | next _ _ ih =>
    rw [State.after_rules, taskAt_keeps_rules hl] at ih
    refine List.forall_mem_cons.mpr ⟨?_, ih⟩
    rw [taskAt]

theorem Queues.opened (h : Queues c definition s payloads rans s') :
    List.Forall₂ (fun p r ↦ Envelope.opened (.object p) = .ok (Ran.payload r)) payloads rans := by
  induction h with
  | done => exact .nil
  | next hp _ ih => exact .cons hp ih

theorem Queues.forall₂ {R : Fields → Ran → Prop} (h : Queues c definition s payloads rans s')
    (hR : ∀ p ∈ payloads, ∀ r ∈ rans, Envelope.opened (.object p) = .ok r.payload → R p r) :
    List.Forall₂ R payloads rans := by
  obtain ⟨hl, hz⟩ := List.forall₂_iff_zip.mp h.opened
  refine List.forall₂_iff_zip.mpr ⟨hl, fun hm ↦ ?_⟩
  have hmem := List.of_mem_zip hm
  exact hR _ hmem.1 _ hmem.2 (hz hm)

theorem exists_queues (c : Configuration) (definition : Value) (s : State)
    (h : ∀ p ∈ payloads, Envelope.opened (.object p) = .ok (.object p)) :
    ∃ rans s', Queues c definition s payloads rans s' := by
  induction payloads generalizing s with
  | nil => exact ⟨[], s, .done s⟩
  | cons p rest ih =>
    rw [List.forall_mem_cons] at h
    obtain ⟨rans, s', hr⟩ := ih (s.after (taskAt c definition s (.object p))) h.2
    exact ⟨_, s', .next h.1 hr⟩

theorem Queues.find_earlier (h : Queues c definition s payloads rans s') {k : Nat}
    (hk : k < s.tasks) : s'.states.find (taskName k) = s.states.find (taskName k) := by
  induction h with
  | done => rfl
  | @next s _ _ payload _ _ _ _ ih =>
    rw [ih (Nat.lt_succ_of_lt hk), State.find_after_other _ (Nat.ne_of_lt hk)]

theorem Queues.find (h : Queues c definition s payloads rans s') (hf : s.Fresh) :
    ∀ r ∈ rans, s'.states.find r.id = .ofOutcome r.outcome := by
  induction h with
  | done => simp
  | @next s _ _ payload _ _ _ hr ih =>
    refine List.forall_mem_cons.mpr ⟨?_, ih (hf.after _)⟩
    rw [hr.find_earlier (Nat.lt_succ_self s.tasks), hf.find_after]

theorem Queues.clock_eq (h : Queues c definition s payloads rans s') (hs : s.clock.Still) :
    ∀ r ∈ rans, r.clock = s.clock := by
  induction h with
  | done => simp
  | @next s _ _ payload _ _ _ _ ih =>
    have hclock : (taskAt c definition s payload).clock = s.clock := taskAt_keeps_clock hs
    rw [State.after_clock, hclock] at ih
    exact List.forall_mem_cons.mpr ⟨rfl, ih hs⟩

end Service

end Automation
