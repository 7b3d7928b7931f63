import Automation.Proofs.Workflow.Issues

namespace Automation

namespace Review

variable {rules : Rules} {position : Nat} {rawTrigger v : Value} {raw : List Value}
  {issues : List Issue}

theorem node_answers_iff (position : Nat) {ms : List String} (h : messages rules v = .ok ms) :
    (∃ part, node rules position v = .ok part) ↔
      ∀ f, Node.ofValue v = .error f → ∃ nodeId, Node.rawId v = textOrNull nodeId := by
  cases hv : Node.ofValue v with
  | ok n => exact ⟨fun _ _ hf ↦ (by cases hf), fun _ ↦ ⟨_, node_eq_ok_iff.mpr (.read hv h)⟩⟩
  | error e =>
    obtain ⟨cause, rfl⟩ := Node.ofValue_eq_error hv
    constructor
    · rintro ⟨part, hp⟩ - -
      cases node_eq_ok_iff.mp hp with
      | unread _ hid => exact ⟨_, hid⟩
      | read hv' => cases hv.symm.trans hv'
    · intro hid
      obtain ⟨nodeId, hid⟩ := hid _ rfl
      exact ⟨_, node_eq_ok_iff.mpr (.unread hv hid)⟩

theorem nodes_answer_iff (position : Nat) (h : ∀ v ∈ raw, ∃ ms, messages rules v = .ok ms) :
    (∃ issues, nodes rules position raw = .ok issues) ↔
      ∀ v ∈ raw, ∀ f, Node.ofValue v = .error f → ∃ nodeId, Node.rawId v = textOrNull nodeId := by
  induction raw generalizing position with
  | nil => exact ⟨fun _ ↦ (by simp), fun _ ↦ ⟨[], rfl⟩⟩
  | cons v raw ih =>
    rw [List.forall_mem_cons] at h ⊢
    obtain ⟨ms, hm⟩ := h.1
    rw [← node_answers_iff position hm, ← ih (position + 1) h.2]
    simp only [nodes, bind_eq_ok_iff, pure_eq_ok_iff]
    constructor
    · rintro ⟨-, part, hp, more, hr, -⟩
      exact ⟨⟨part, hp⟩, more, hr⟩
    · rintro ⟨⟨part, hp⟩, more, hr⟩
      exact ⟨_, part, hp, more, hr, rfl⟩

def atPosition (k : Nat) (issues : List Issue) : List Issue :=
  issues.filter fun i ↦ i.position = some (k : Int)

theorem nodes_atPosition {i : Nat} (h : nodes rules position raw = .ok issues)
    (hi : raw[i]? = some v) :
    Reports rules (position + i) v (atPosition (position + i) issues) := by
  induction raw generalizing position issues i with
  | nil => simp at hi
  | cons w raw ih =>
    simp only [nodes, bind_eq_ok_iff, pure_eq_ok_iff, node_eq_ok_iff] at h
    obtain ⟨part, hw, more, hr, rfl⟩ := h
    cases i with
    | zero =>
      obtain rfl : w = v := Option.some.inj hi
      have hpart : part.filter (fun j ↦ j.position = some ((position + 0 : Nat) : Int)) = part :=
        List.filter_eq_self.mpr fun j hj ↦ by simp [hw.position_eq hj]
      have hmore : more.filter (fun j ↦ j.position = some ((position + 0 : Nat) : Int)) = [] := by
        refine List.filter_eq_nil_iff.mpr fun j hj ↦ ?_
        obtain ⟨k, hk, hp⟩ := positions_of_nodes hr j hj
        simp only [hp, Option.some.injEq, decide_eq_true_eq]
        omega
      rw [atPosition, List.filter_append, hpart, hmore, List.append_nil]
      exact hw
    | succ i =>
      have hpart :
          part.filter (fun j ↦ j.position = some ((position + (i + 1) : Nat) : Int)) = [] := by
        refine List.filter_eq_nil_iff.mpr fun j hj ↦ ?_
        simp only [hw.position_eq hj, Option.some.injEq, decide_eq_true_eq]
        omega
      rw [atPosition, List.filter_append, hpart, List.nil_append]
      rw [Nat.add_comm i 1, ← Nat.add_assoc]
      exact ih hr hi

theorem workflow_atPosition {i : Nat} (h : workflow rules rawTrigger raw = .ok issues)
    (hi : raw[i]? = some v) : Reports rules (1 + i) v (atPosition (1 + i) issues) := by
  obtain ⟨more, hmore, rfl⟩ := workflow_eq_ok_iff.mp h
  have hw : atPosition (1 + i) (trigger rawTrigger ++ emptiness raw) = [] :=
    List.filter_eq_nil_iff.mpr fun j hj ↦ by simp [position_of_workflow hj]
  have hm := nodes_atPosition hmore hi
  unfold atPosition at hw hm ⊢
  rwa [List.filter_append, hw, List.nil_append]

/-- Where each node has messages, a review has an answer exactly if the id of each node that cannot
be read is a text, or nothing. Each of those nodes then has one issue, at its position. -/
theorem review_answers_iff (rules : Rules) (rawTrigger : Value) {raw : List Value}
    (h : ∀ v ∈ raw, ∃ ms, messages rules v = .ok ms) :
    ((∃ issues, (logged rules rawTrigger raw).outcome = .ok issues) ↔
        ∀ v ∈ raw, ∀ f, Node.ofValue v = .error f → ∃ nodeId, Node.rawId v = textOrNull nodeId) ∧
      ∀ issues, (logged rules rawTrigger raw).outcome = .ok issues →
        ∀ (i : Nat) v f, raw[i]? = some v → Node.ofValue v = .error f →
          ∃ issue, issues.filter (fun j ↦ j.position = some ((1 + i : Nat) : Int)) = [issue] := by
  simp only [Run.review_outcome]
  constructor
  · rw [← nodes_answer_iff 1 h]
    constructor
    · rintro ⟨issues, hw⟩
      obtain ⟨more, hmore, -⟩ := workflow_eq_ok_iff.mp hw
      exact ⟨more, hmore⟩
    · rintro ⟨more, hmore⟩
      exact ⟨_, workflow_eq_ok_iff.mpr ⟨more, hmore, rfl⟩⟩
  · intro issues hw i v f hi hv
    have hr := workflow_atPosition hw hi
    unfold atPosition at hr
    generalize issues.filter _ = part at hr ⊢
    cases hr with
    | unread => exact ⟨_, rfl⟩
    | read hv' => cases hv.symm.trans hv'

theorem review_answers_iff_sample : (∀ v ∈ [Sample.typeless, Sample.waiting],
      ∃ ms, messages .standard v = .ok ms) ∧
    ∃ issues, (logged .standard .null [Sample.typeless, Sample.waiting]).outcome = .ok issues ∧
      ∃ issue, issues.filter (fun j ↦ j.position = some (1 : Int)) = [issue] := by
  have h : ∀ v ∈ [Sample.typeless, Sample.waiting], ∃ ms, messages .standard v = .ok ms := by
    simp only [List.forall_mem_cons]
    exact ⟨⟨_, rfl⟩, ⟨_, rfl⟩, by simp⟩
  obtain ⟨issues, hi⟩ : ∃ issues,
      (logged .standard .null [Sample.typeless, Sample.waiting]).outcome = .ok issues := ⟨_, rfl⟩
  obtain ⟨e, he⟩ : ∃ e, Node.ofValue Sample.typeless = .error e := ⟨_, rfl⟩
  exact ⟨h, issues, hi,
    (review_answers_iff .standard .null h).2 issues hi 0 Sample.typeless e rfl he⟩

theorem not_review_answers_of_number : ¬ ∀ (rules : Rules) (rawTrigger : Value) (raw : List Value),
    (∀ v ∈ raw, ∃ ms, messages rules v = .ok ms) →
      ∃ issues, (logged rules rawTrigger raw).outcome = .ok issues := by
  intro h
  obtain ⟨issues, hi⟩ := h .standard (.object [("type", .text "manual")]) [.object [("id", .int 5)]]
    (List.forall_mem_singleton.mpr ⟨_, rfl⟩)
  cases hi

end Review

end Automation
