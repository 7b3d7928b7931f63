import Automation.Proofs.Run.Outcome

namespace Automation

namespace Node

def rawId : Value → Value
  | .object fs => Fields.get fs "id"
  | _ => .null

theorem ofValue_eq_error {raw : Value} {e : Fault} (h : ofValue raw = .error e) :
    ∃ cause, e = .failure (.definition cause (rawId raw)) := by
  cases raw with
  | object fs =>
    simp only [ofValue] at h
    split at h
    · cases h
    · cases h
      exact ⟨_, rfl⟩
  | _ =>
    cases h
    exact ⟨_, rfl⟩

end Node

namespace Issue

theorem ofRawId_eq_ok_iff {id : Value} {message : String} {position : Nat} {i : Issue} :
    ofRawId id message position = .ok i ↔
      ∃ nodeId, id = textOrNull nodeId ∧ i = ⟨nodeId, message, some position⟩ := by
  unfold ofRawId
  constructor
  · intro h
    cases id with
    | null =>
      cases h
      exact ⟨none, rfl, rfl⟩
    | text s =>
      cases h
      exact ⟨some s, rfl, rfl⟩
    | _ => cases h
  · rintro ⟨nodeId, rfl, rfl⟩
    cases nodeId <;> rfl

/-- An issue of a node, and the same one of the node with `k` more in front of it. -/
inductive Shifted (k : Nat) : Issue → Issue → Prop
  | mk (nodeId : Option String) (position : Nat) (said : String) :
      Shifted k ⟨nodeId, "Node " ++ intText position ++ said, some position⟩
        ⟨nodeId, "Node " ++ intText (position + k : Nat) ++ said, some (position + k : Nat)⟩

theorem Shifted.of_texts {k position : Nat} {nodeId : Option String} {said m m' : String}
    (h : m = "Node " ++ intText position ++ said)
    (h' : m' = "Node " ++ intText (position + k : Nat) ++ said) :
    Shifted k ⟨nodeId, m, some position⟩ ⟨nodeId, m', some (position + k : Nat)⟩ := by
  rw [h, h']
  exact .mk nodeId position said

end Issue

namespace Review

variable {rules : Rules} {position k : Nat} {rawTrigger v : Value} {raw front back : List Value}
  {part issues : List Issue}

/-- What is reported of a node: that it cannot be read, or else each message about it. -/
inductive Reports (rules : Rules) (position : Nat) (raw : Value) : List Issue → Prop
  | unread {f : Failure} {nodeId : Option String} (h : Node.ofValue raw = .error (.failure f))
      (hid : Node.rawId raw = textOrNull nodeId) : Reports rules position raw
        [⟨nodeId, "Node " ++ intText position ++ ": " ++ f.message, some position⟩]
  | read {n : Node} {ms : List String} (h : Node.ofValue raw = .ok n)
      (hm : messages rules raw = .ok ms) : Reports rules position raw (ms.map fun m ↦
        ⟨n.id, "Node " ++ intText position ++ " (" ++ n.type ++ "): " ++ m, some position⟩)

theorem messages_of_read {n : Node} (h : Node.ofValue v = .ok n) :
    messages rules v = rules.check n := by
  simp only [messages, h]

theorem node_eq_ok_iff : node rules position v = .ok part ↔ Reports rules position v part := by
  unfold node
  cases hv : Node.ofValue v with
  | ok n =>
    simp only [map_eq_ok_iff]
    constructor
    · rintro ⟨ms, hm, rfl⟩
      exact .read hv ((messages_of_read hv).trans hm)
    · rintro (⟨h, -⟩ | ⟨h, hm⟩)
      · cases hv.symm.trans h
      · cases hv.symm.trans h
        exact ⟨_, (messages_of_read hv).symm.trans hm, rfl⟩
  | error e =>
    obtain ⟨cause, rfl⟩ := Node.ofValue_eq_error hv
    simp only [unreadable, map_eq_ok_iff, Issue.ofRawId_eq_ok_iff]
    constructor
    · rintro ⟨_, ⟨nodeId, hid, rfl⟩, rfl⟩
      exact .unread hv hid
    · rintro (⟨h, hid⟩ | ⟨h, -⟩)
      · cases hv.symm.trans h
        exact ⟨_, ⟨_, hid, rfl⟩, rfl⟩
      · cases hv.symm.trans h

theorem nodes_eq_ok_iff : nodes rules position raw = .ok issues ↔
    ∃ parts, List.Forall₂ (fun p part ↦ Reports rules p.2 p.1 part) (raw.zipIdx position) parts ∧
      issues = parts.flatten := by
  induction raw generalizing position issues with
  | nil =>
    simp only [nodes, List.zipIdx_nil, List.forall₂_nil_left_iff, exists_eq_left, List.flatten_nil]
    exact ⟨fun h ↦ (Except.ok.inj h).symm, fun h ↦ h ▸ rfl⟩
  | cons v raw ih =>
    simp only [nodes, bind_eq_ok_iff, pure_eq_ok_iff, node_eq_ok_iff, ih, List.zipIdx_cons,
      List.forall₂_cons_left_iff]
    constructor
    · rintro ⟨part, hv, -, ⟨parts, hp, rfl⟩, rfl⟩
      exact ⟨part :: parts, ⟨part, parts, hv, hp, rfl⟩, rfl⟩
    · rintro ⟨-, ⟨part, parts, hv, hp, rfl⟩, rfl⟩
      exact ⟨part, hv, _, ⟨parts, hp, rfl⟩, rfl⟩

theorem Reports.position_eq (h : Reports rules position v part) {i : Issue} (hi : i ∈ part) :
    i.position = some (position : Int) := by
  cases h with
  | unread => rw [List.mem_singleton.mp hi]
  | read =>
    obtain ⟨m, -, rfl⟩ := List.mem_map.mp hi
    rfl

theorem Reports.eq_nil_iff (h : Reports rules position v part) :
    part = [] ↔ ∃ n, Node.ofValue v = .ok n ∧ messages rules v = .ok [] := by
  constructor
  · rintro rfl
    generalize he : ([] : List Issue) = part at h
    cases h with
    | unread => cases he
    | @read n ms hv hm => exact ⟨n, hv, by rw [hm, List.map_eq_nil_iff.mp he.symm]⟩
  · rintro ⟨n, hv, hm⟩
    cases h with
    | unread hv' => cases hv.symm.trans hv'
    | read _ hm' =>
      cases hm.symm.trans hm'
      rfl

theorem Reports.unshift (h : Reports rules (position + k) v part) :
    ∃ earlier, Reports rules position v earlier ∧ List.Forall₂ (Issue.Shifted k) earlier part := by
  cases h with
  | unread hv hid =>
    exact ⟨_, .unread hv hid, .cons (.of_texts String.append_assoc String.append_assoc) .nil⟩
  | @read n ms hv hm =>
    refine ⟨_, .read hv hm, List.forall₂_map_left_iff.mpr (List.forall₂_map_right_iff.mpr ?_)⟩
    refine List.forall₂_same.mpr fun m _ ↦ ?_
    have hs := Issue.Shifted.mk (k := k) n.id position (" (" ++ n.type ++ "): " ++ m)
    simpa only [String.append_assoc] using hs

theorem nodes_unshift (h : nodes rules (position + k) raw = .ok issues) :
    ∃ earlier, nodes rules position raw = .ok earlier ∧
      List.Forall₂ (Issue.Shifted k) earlier issues := by
  induction raw generalizing position issues with
  | nil =>
    cases h
    exact ⟨[], rfl, .nil⟩
  | cons v raw ih =>
    simp only [nodes, bind_eq_ok_iff, pure_eq_ok_iff, node_eq_ok_iff] at h ⊢
    obtain ⟨part, hv, more, hr, rfl⟩ := h
    obtain ⟨part', hv', hp⟩ := hv.unshift
    rw [Nat.add_right_comm] at hr
    obtain ⟨more', hr', hm⟩ := ih hr
    exact ⟨part' ++ more', ⟨part', hv', more', hr', rfl⟩, List.rel_append hp hm⟩

def Untyped (rawTrigger : Value) : Prop :=
  (∃ f, Trigger.ofValue rawTrigger = .error f) ∨
    ∃ t, Trigger.ofValue rawTrigger = .ok t ∧ (t.type = none ∨ t.type = some "")

theorem not_untyped_iff : ¬ Untyped rawTrigger ↔
    ∃ t type, Trigger.ofValue rawTrigger = .ok t ∧ t.type = some type ∧ type ≠ "" := by
  unfold Untyped
  cases Trigger.ofValue rawTrigger with
  | error f => simp
  | ok t => cases ht : t.type <;> simp [ht]

theorem trigger_cases : trigger rawTrigger = [trigger.missing] ∧ Untyped rawTrigger ∨
    trigger rawTrigger = [] ∧ ¬ Untyped rawTrigger := by
  by_cases h : trigger rawTrigger = []
  · exact .inr ⟨h, not_untyped_iff.mpr (trigger_eq_nil_iff.mp h)⟩
  · refine .inl ⟨?_, not_not.mp fun hu ↦ h (trigger_eq_nil_iff.mpr (not_untyped_iff.mp hu))⟩
    unfold trigger at h ⊢
    split <;> simp_all

theorem emptiness_eq_nil_iff : emptiness raw = [] ↔ raw ≠ [] := by
  cases raw <;> simp [emptiness]

theorem emptiness_cases :
    emptiness raw = [{ message := "Add at least one action node" }] ∧ raw = [] ∨
      emptiness raw = [] ∧ raw ≠ [] := by
  cases raw with
  | nil => exact .inl ⟨rfl, rfl⟩
  | cons v raw => exact .inr ⟨rfl, List.cons_ne_nil v raw⟩

theorem position_of_workflow {i : Issue} (hi : i ∈ trigger rawTrigger ++ emptiness raw) :
    i.position = none := by
  rcases List.mem_append.mp hi with ht | he
  · rcases @trigger_cases rawTrigger with ⟨h, -⟩ | ⟨h, -⟩
    · rw [h, List.mem_singleton] at ht
      rw [ht]
      rfl
    · simp [h] at ht
  · rcases @emptiness_cases raw with ⟨h, -⟩ | ⟨h, -⟩
    · rw [h, List.mem_singleton] at he
      rw [he]
    · simp [h] at he

theorem workflow_eq_ok_iff : workflow rules rawTrigger raw = .ok issues ↔
    ∃ more, nodes rules 1 raw = .ok more ∧
      issues = trigger rawTrigger ++ emptiness raw ++ more := by
  simp only [workflow, map_eq_ok_iff, @eq_comm _ issues]

def ofNodes (issues : List Issue) : List Issue := issues.filter fun i ↦ i.position.isSome

theorem positions_of_nodes (h : nodes rules position raw = .ok issues) :
    ∀ i ∈ issues, ∃ k : Nat, position ≤ k ∧ i.position = some (k : Int) := by
  induction raw generalizing position issues with
  | nil =>
    cases h
    simp
  | cons v raw ih =>
    simp only [nodes, bind_eq_ok_iff, pure_eq_ok_iff, node_eq_ok_iff] at h
    obtain ⟨part, hv, more, hr, rfl⟩ := h
    intro i hi
    rcases List.mem_append.mp hi with hpart | hmore
    · exact ⟨position, Nat.le_refl _, hv.position_eq hpart⟩
    · obtain ⟨k, hk, hp⟩ := ih hr i hmore
      exact ⟨k, by omega, hp⟩

theorem ofNodes_workflow {more : List Issue} (h : nodes rules 1 raw = .ok more) :
    ofNodes (trigger rawTrigger ++ emptiness raw ++ more) = more := by
  have hw : ofNodes (trigger rawTrigger ++ emptiness raw) = [] :=
    List.filter_eq_nil_iff.mpr fun i hi ↦ by simp [position_of_workflow hi]
  have hm : ofNodes more = more := by
    refine List.filter_eq_self.mpr fun i hi ↦ ?_
    obtain ⟨k, -, hk⟩ := positions_of_nodes h i hi
    rw [hk]
    rfl
  unfold ofNodes at hw hm ⊢
  rw [List.filter_append, hw, hm, List.nil_append]

theorem nodes_eq_nil_iff (h : nodes rules position raw = .ok issues) :
    issues = [] ↔ ∀ v ∈ raw, ∃ n, Node.ofValue v = .ok n ∧ messages rules v = .ok [] := by
  induction raw generalizing position issues with
  | nil =>
    cases h
    simp
  | cons v raw ih =>
    simp only [nodes, bind_eq_ok_iff, pure_eq_ok_iff, node_eq_ok_iff] at h
    obtain ⟨part, hv, more, hr, rfl⟩ := h
    rw [List.append_eq_nil_iff, hv.eq_nil_iff, ih hr, List.forall_mem_cons]

theorem workflow_split (h : workflow rules rawTrigger (front ++ back) = .ok issues) :
    ∃ a b shifted, workflow rules rawTrigger front = .ok a ∧
      workflow rules rawTrigger back = .ok b ∧
      List.Forall₂ (Issue.Shifted front.length) (ofNodes b) shifted ∧
      ofNodes issues = ofNodes a ++ shifted := by
  obtain ⟨more, hmore, rfl⟩ := workflow_eq_ok_iff.mp h
  have hm := hmore
  rw [nodes_append] at hm
  simp only [bind_eq_ok_iff, pure_eq_ok_iff] at hm
  obtain ⟨a, ha, shifted, hs, rfl⟩ := hm
  obtain ⟨b, hb, hshift⟩ := nodes_unshift hs
  refine ⟨_, _, shifted, workflow_eq_ok_iff.mpr ⟨a, ha, rfl⟩, workflow_eq_ok_iff.mpr ⟨b, hb, rfl⟩,
    ?_, ?_⟩
  · rwa [ofNodes_workflow hb]
  · rw [ofNodes_workflow hmore, ofNodes_workflow ha]

/-- A review lists every issue, in a fixed order, and nothing else: the one of its trigger, the one
of having no nodes, and what is reported of each node. What it lists of a node depends on the other
nodes only by how many stand in front. -/
theorem review_lists_issues (rules : Rules) (rawTrigger : Value) (nodes : Option (List Value))
    {issues : List Issue} (h : (logged rules rawTrigger (nodes.getD [])).outcome = .ok issues) :
    (∃ ofTrigger ofEmptiness parts, issues = ofTrigger ++ ofEmptiness ++ parts.flatten ∧
        (ofTrigger = [⟨some "trigger", "Trigger is not set", none⟩] ∧ Untyped rawTrigger ∨
          ofTrigger = [] ∧ ¬ Untyped rawTrigger) ∧
        (ofEmptiness = [⟨none, "Add at least one action node", none⟩] ∧
            (nodes = none ∨ nodes = some []) ∨
          ofEmptiness = [] ∧ ∃ v rest, nodes = some (v :: rest)) ∧
        List.Forall₂ (fun p part ↦ Reports rules p.2 p.1 part) ((nodes.getD []).zipIdx 1) parts) ∧
      (issues = [] ↔
        (∃ t type, Trigger.ofValue rawTrigger = .ok t ∧ t.type = some type ∧ type ≠ "") ∧
        (∃ v rest, nodes = some (v :: rest)) ∧
        ∀ v ∈ nodes.getD [], ∃ n, Node.ofValue v = .ok n ∧ messages rules v = .ok []) ∧
      ∀ front back, nodes = some (front ++ back) → ∃ a b shifted,
        (logged rules rawTrigger front).outcome = .ok a ∧
        (logged rules rawTrigger back).outcome = .ok b ∧
        List.Forall₂ (Issue.Shifted front.length) (ofNodes b) shifted ∧
        ofNodes issues = ofNodes a ++ shifted := by
  rw [Run.review_outcome] at h
  simp only [Run.review_outcome]
  have hnone : nodes.getD [] = [] ↔ nodes = none ∨ nodes = some [] := by cases nodes <;> simp
  have hsome : nodes.getD [] ≠ [] ↔ ∃ v rest, nodes = some (v :: rest) := by
    rcases nodes with _ | _ | ⟨v, rest⟩ <;> simp
  obtain ⟨more, hmore, hissues⟩ := workflow_eq_ok_iff.mp h
  refine ⟨?_, ?_, ?_⟩
  · obtain ⟨parts, hp, rfl⟩ := nodes_eq_ok_iff.mp hmore
    refine ⟨_, _, parts, hissues, trigger_cases, ?_, hp⟩
    rw [← hnone, ← hsome]
    exact emptiness_cases
  · rw [hissues, List.append_eq_nil_iff, List.append_eq_nil_iff, trigger_eq_nil_iff,
      emptiness_eq_nil_iff, nodes_eq_nil_iff hmore, hsome, and_assoc]
  · rintro front back rfl
    exact workflow_split h

namespace Sample

def typeless : Value := .object [("id", .text "n1")]

def waiting : Value := .object [("id", .int 2), ("type", .text "wait")]

end Sample

theorem review_lists_issues_sample : ∃ issues,
    (logged .standard .null [Sample.typeless, Sample.waiting]).outcome = .ok issues ∧
      issues.length = 4 ∧ ∃ a b shifted,
        (logged .standard .null [Sample.typeless]).outcome = .ok a ∧
        (logged .standard .null [Sample.waiting]).outcome = .ok b ∧
        List.Forall₂ (Issue.Shifted 1) (ofNodes b) shifted ∧
        ofNodes issues = ofNodes a ++ shifted := by
  obtain ⟨issues, h, hl⟩ : ∃ issues,
      (logged .standard .null [Sample.typeless, Sample.waiting]).outcome = .ok issues ∧
        issues.length = 4 := ⟨_, rfl, rfl⟩
  exact ⟨issues, h, hl, (review_lists_issues .standard .null
    (some [Sample.typeless, Sample.waiting]) h).2.2 [Sample.typeless] [Sample.waiting] rfl⟩

end Review

end Automation
