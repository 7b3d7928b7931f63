import Automation.Proofs.Run.Course

namespace Automation

namespace Review

variable {rules : Rules} {rawTrigger : Value} {raw : List Value} {position : Nat}

theorem trigger_eq_nil_iff : trigger rawTrigger = [] ↔
    ∃ t type, Trigger.ofValue rawTrigger = .ok t ∧ t.type = some type ∧ type ≠ "" := by
  unfold trigger
  cases Trigger.ofValue rawTrigger with
  | error f => simp
  | ok t =>
    obtain ⟨type, condition, extra⟩ := t
    cases type with
    | none => simp
    | some type => by_cases ht : type = "" <;> simp [ht]

theorem node_eq_nil {v : Value} (h : node rules position v = .ok []) :
    ∃ n, Node.ofValue v = .ok n := by
  unfold node at h
  split at h
  · next n hn => exact ⟨n, hn⟩
  · simp [unreadable] at h
  · cases h

theorem nodes_eq_nil (h : nodes rules position raw = .ok []) :
    ∃ ns, raw.mapM Node.ofValue = .ok ns := by
  induction raw generalizing position with
  | nil => exact ⟨[], rfl⟩
  | cons v raw ih =>
    simp only [nodes, bind_eq_ok_iff, pure_eq_ok_iff, List.append_eq_nil_iff] at h
    obtain ⟨issues, hv, more, hr, rfl, rfl⟩ := h
    obtain ⟨n, hn⟩ := node_eq_nil hv
    obtain ⟨ns, hns⟩ := ih hr
    exact ⟨n :: ns, mapM_eq_ok_iff.mpr (.cons hn (mapM_eq_ok_iff.mp hns))⟩

theorem workflow_eq_nil (h : workflow rules rawTrigger raw = .ok []) :
    (∃ t type, Trigger.ofValue rawTrigger = .ok t ∧ t.type = some type ∧ type ≠ "") ∧
      raw ≠ [] ∧ ∃ ns, raw.mapM Node.ofValue = .ok ns := by
  simp only [workflow, map_eq_ok_iff, List.append_eq_nil_iff] at h
  obtain ⟨issues, hn, ⟨ht, he⟩, rfl⟩ := h
  refine ⟨trigger_eq_nil_iff.mp ht, ?_, nodes_eq_nil hn⟩
  rintro rfl
  simp [emptiness] at he

end Review

namespace Event

theorem toContext_eq_ok_iff {t : Trigger} {payload : Value} {now : Instant} {c : Context} :
    toContext t payload now = .ok c ↔ ∃ deal, opportunity (mapping payload) = .ok deal ∧ c = {
      triggerType := textOr (t.type.getD "") "unknown"
      triggeredAt := now.text
      contact := contact (mapping payload)
      opportunity := deal
      notes :=
        (mapping ((mapping payload).get "meta")).merge (notes t (mapping payload) deal) } := by
  simp only [toContext, map_eq_ok_iff, @eq_comm _ c]

end Event

namespace Run

/-- What a run starts from: a trigger with a type, nodes, and the first context, which is made of
the event. -/
structure Starts (now : Instant) (trigger nodes payload : Value) (type : String) (ns : List Node)
    (c : Context) : Prop where
  trigger : ∃ t, Trigger.ofValue trigger = .ok t ∧ t.type = some type ∧
    Event.toContext t payload now = .ok c
  nodes : Node.listOfValue nodes = .ok ns
  type_ne : type ≠ ""
  nodes_ne : ns ≠ []

def Ending.result (type : Option String) (startedAt completedAt : String) (steps : List Step) :
    Ending → Result
  | .completed c => Run.completed type startedAt completedAt steps c
  | .stopped n m => Run.stopped type startedAt steps n m

@[simp] theorem Ending.steps_result (ending : Ending) (type : Option String)
    (startedAt completedAt : String) (steps : List Step) :
    (ending.result type startedAt completedAt steps).steps = steps := by
  cases ending <;> rfl

variable {rules : Rules} {now : Instant} {trigger nodes payload edges : Value}

theorem review_outcome {raw : List Value} : (Review.logged rules trigger raw).outcome =
    Review.workflow rules trigger raw := by
  unfold Review.logged
  simp only [Traced.bind_outcome, Traced.lift]
  cases Review.workflow rules trigger raw with
  | error f => rfl
  | ok issues => cases issues <;> rfl

theorem event_outcome {t : Trigger} : (Event.logged t payload now).outcome =
    Event.toContext t payload now := by
  unfold Event.logged
  simp only [Traced.bind_outcome, Traced.lift]
  cases Event.toContext t payload now <;> rfl

theorem prepare_eq_ok_iff {p : Prepared} :
    (prepare rules now trigger nodes payload edges).outcome = .ok p ↔
      ∃ raw, nodes.elementsIfGiven = .ok raw ∧ (∃ m, edges.countIfGiven = .ok m) ∧
        ((∃ first more, Review.workflow rules trigger raw = .ok (first :: more) ∧
            p = .invalid first more) ∨
          Review.workflow rules trigger raw = .ok [] ∧ ∃ t ns c, Trigger.ofValue trigger = .ok t ∧
            raw.mapM Node.ofValue = .ok ns ∧ Event.toContext t payload now = .ok c ∧
            p = .ready ns c) := by
  unfold prepare
  simp only [Traced.bind_outcome, Traced.lift, Traced.log, then_eq_ok_iff, review_outcome]
  constructor
  · rintro ⟨raw, hraw, m, hm, -, -, issues, hw, h⟩
    refine ⟨raw, hraw, ⟨m, hm⟩, ?_⟩
    cases issues with
    | cons first more =>
      refine .inl ⟨first, more, hw, ?_⟩
      cases h
      rfl
    | nil =>
      simp only [Traced.bind_outcome, then_eq_ok_iff, event_outcome] at h
      obtain ⟨t, ht, ns, hns, c, hc, h⟩ := h
      refine .inr ⟨hw, t, ns, c, ht, hns, hc, ?_⟩
      cases h
      rfl
  · rintro ⟨raw, hraw, ⟨m, hm⟩, ⟨first, more, hw, rfl⟩ | ⟨hw, t, ns, c, ht, hns, hc, rfl⟩⟩
    · exact ⟨raw, hraw, m, hm, (), trivial, _, hw, rfl⟩
    · refine ⟨raw, hraw, m, hm, (), trivial, _, hw, ?_⟩
      simp only [Traced.bind_outcome, then_eq_ok_iff, event_outcome]
      exact ⟨t, ht, ns, hns, c, hc, rfl⟩

theorem prepare_eq_invalid_iff {first : Issue} {more : List Issue} :
    (prepare rules now trigger nodes payload edges).outcome = .ok (.invalid first more) ↔
      ∃ raw, nodes.elementsIfGiven = .ok raw ∧ (∃ m, edges.countIfGiven = .ok m) ∧
        Review.workflow rules trigger raw = .ok (first :: more) := by
  rw [prepare_eq_ok_iff]
  constructor
  · rintro ⟨raw, hraw, hm, ⟨_, _, hw, ⟨⟩⟩ | ⟨-, _, _, _, -, -, -, ⟨⟩⟩⟩
    exact ⟨raw, hraw, hm, hw⟩
  · rintro ⟨raw, hraw, hm, hw⟩
    exact ⟨raw, hraw, hm, .inl ⟨first, more, hw, rfl⟩⟩

theorem prepare_eq_ready_iff {ns : List Node} {c : Context} :
    (prepare rules now trigger nodes payload edges).outcome = .ok (.ready ns c) ↔
      ∃ raw t, nodes.elementsIfGiven = .ok raw ∧ (∃ m, edges.countIfGiven = .ok m) ∧
        Review.workflow rules trigger raw = .ok [] ∧ Trigger.ofValue trigger = .ok t ∧
        raw.mapM Node.ofValue = .ok ns ∧ Event.toContext t payload now = .ok c := by
  rw [prepare_eq_ok_iff]
  constructor
  · rintro ⟨raw, hraw, hm, ⟨_, _, -, ⟨⟩⟩ | ⟨hw, t, _, _, ht, hns, hc, ⟨⟩⟩⟩
    exact ⟨raw, t, hraw, hm, hw, ht, hns, hc⟩
  · rintro ⟨raw, t, hraw, hm, hw, ht, hns, hc⟩
    exact ⟨raw, hraw, hm, .inr ⟨hw, t, ns, c, ht, hns, hc, rfl⟩⟩

end Run

namespace Engine

open Run

variable {e : Engine} {rules : Rules} {clock : Clock} {trigger nodes payload edges : Value}

theorem run_of_invalid {first : Issue} {more : List Issue}
    (h : (prepare rules clock.read.1 trigger nodes payload edges).outcome =
      .ok (.invalid first more)) :
    (e.run rules clock trigger nodes payload edges).outcome =
      .ok (invalid (triggerType trigger) clock.read.1.text first more) := by
  simp only [run, h]

theorem run_of_ready {ns : List Node} {c : Context} {steps : List Step} {ending : Ending}
    (h : (prepare rules clock.read.1 trigger nodes payload edges).outcome = .ok (.ready ns c))
    (hg : Goes e.actions ⟨clock.read.1, e.unknownCondition⟩ rules 1 c ns steps ending) :
    (e.run rules clock trigger nodes payload edges).outcome =
      .ok (ending.result (triggerType trigger) clock.read.1.text clock.read.2.read.1.text
        steps) := by
  have hc := course_eq_ok_iff.mpr hg
  cases ending <;> simp only [run, h, hc] <;> rfl

theorem run_eq_ok_iff {r : Result} :
    (e.run rules clock trigger nodes payload edges).outcome = .ok r ↔
      (∃ first more, (prepare rules clock.read.1 trigger nodes payload edges).outcome =
          .ok (.invalid first more) ∧
        r = invalid (triggerType trigger) clock.read.1.text first more) ∨
      ∃ ns c steps ending, (prepare rules clock.read.1 trigger nodes payload edges).outcome =
          .ok (.ready ns c) ∧
        Goes e.actions ⟨clock.read.1, e.unknownCondition⟩ rules 1 c ns steps ending ∧
        r = ending.result (triggerType trigger) clock.read.1.text clock.read.2.read.1.text
          steps := by
  constructor
  · intro h
    cases hp : (prepare rules clock.read.1 trigger nodes payload edges).outcome with
    | error f => simp [run, hp] at h
    | ok p =>
      cases p with
      | invalid first more =>
        rw [run_of_invalid hp] at h
        exact .inl ⟨first, more, rfl, (Except.ok.inj h).symm⟩
      | ready ns c =>
        cases hk : (course e.actions ⟨clock.read.1, e.unknownCondition⟩ rules 1 c ns).outcome with
        | error f => simp [run, hp, hk] at h
        | ok q =>
          obtain ⟨steps, ending⟩ := q
          have hg := course_eq_ok_iff.mp hk
          rw [run_of_ready hp hg] at h
          exact .inr ⟨ns, c, steps, ending, rfl, hg, (Except.ok.inj h).symm⟩
  · rintro (⟨first, more, hp, rfl⟩ | ⟨ns, c, steps, ending, hp, hg, rfl⟩)
    · exact run_of_invalid hp
    · exact run_of_ready hp hg

theorem given_of_run {r : Result}
    (h : (e.run rules clock trigger nodes payload edges).outcome = .ok r) :
    (∃ raw, nodes.elementsIfGiven = .ok raw) ∧ ∃ m, edges.countIfGiven = .ok m := by
  rcases run_eq_ok_iff.mp h with ⟨_, _, hp, -⟩ | ⟨_, _, _, _, hp, -⟩
  · obtain ⟨raw, hraw, hm, -⟩ := prepare_eq_invalid_iff.mp hp
    exact ⟨⟨raw, hraw⟩, hm⟩
  · obtain ⟨raw, -, hraw, hm, -⟩ := prepare_eq_ready_iff.mp hp
    exact ⟨⟨raw, hraw⟩, hm⟩

/-- A run with a result found its workflow invalid, or started with a trigger, nodes and a context
and went through the nodes. -/
theorem run_eq_ok_cases {r : Result}
    (h : (e.run rules clock trigger nodes payload edges).outcome = .ok r) :
    (∃ first more, r = invalid (triggerType trigger) clock.read.1.text first more) ∨
      ∃ type ns c steps ending, Starts clock.read.1 trigger nodes payload type ns c ∧
        Goes e.actions ⟨clock.read.1, e.unknownCondition⟩ rules 1 c ns steps ending ∧
        r = ending.result (some type) clock.read.1.text clock.read.2.read.1.text steps := by
  rcases run_eq_ok_iff.mp h with ⟨first, more, -, rfl⟩ | ⟨ns, c, steps, ending, hp, hg, rfl⟩
  · exact .inl ⟨first, more, rfl⟩
  · obtain ⟨raw, t, hraw, -, hw, ht, hns, hc⟩ := prepare_eq_ready_iff.mp hp
    obtain ⟨⟨t', type, ht', htype, hne⟩, hraw_ne, -⟩ := Review.workflow_eq_nil hw
    obtain rfl : t = t' := Except.ok.inj (ht.symm.trans ht')
    have htt : triggerType trigger = some type := by simp only [triggerType, ht, htype]
    refine .inr ⟨type, ns, c, steps, ending, ⟨⟨t, ht, htype, hc⟩, ?_, hne,
      ne_nil_of_mapM hns hraw_ne⟩, hg, by rw [htt]⟩
    simp only [Node.listOfValue, then_eq_ok_iff]
    exact ⟨raw, hraw, hns⟩

end Engine

namespace Sample

def trigger : Value := .object [("type", .text "manual")]

def tagging : Value := .object [("id", .text "n1"), ("type", .text "add_tag"),
  ("config", .object [("tag", .text "lead")])]

def telling : Value := .object [("id", .text "n2"), ("type", .text "send_notification"),
  ("config", .object [("message", .text "A lead"), ("notify_user", .text "ana")])]

def payload : Value := .object [("tags", .list [.text "new"]), ("opportunity_value", .float .zero)]

def clock : Clock := ⟨{ year := 2026, month := 3, day := 5 }, []⟩

def outcome : Except Fault Result :=
  (Engine.run {} .standard clock trigger (.list [tagging, telling]) payload .null).outcome

end Sample

end Automation
