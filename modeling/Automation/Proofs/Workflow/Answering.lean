import Automation.Proofs.Value.Number
import Automation.Proofs.Workflow.Issues

namespace Automation

open Binary64

namespace Rule

variable {cfg : Fields} {v : Value} {f : Fault}

theorem amount_eq_error_iff : amount v = .error f ↔
    (∃ k, v = .int k ∧ limit ≤ k.natAbs) ∧ f = .numberTooLarge := by
  rw [← Value.asNumber_eq_tooLarge_iff, @eq_comm _ f]
  unfold amount
  split
  · simp [Value.asNumber]
  · split <;> simp_all

theorem wait_eq_error_iff : wait cfg = .error f ↔
    (∃ k, cfg.get "wait_days" = .int k ∧ limit ≤ k.natAbs) ∧ f = .numberTooLarge := by
  rw [wait, map_eq_error_iff, amount_eq_error_iff]

theorem charge_eq_error_iff : charge cfg = .error f ↔
    (∃ k, cfg.get "amount" = .int k ∧ limit ≤ k.natAbs) ∧ f = .numberTooLarge := by
  rw [charge, map_eq_error_iff, amount_eq_error_iff]

theorem condition_eq_error_iff : condition cfg = .error f ↔
    (∃ x xs, cfg.get "condition_type" = .list (x :: xs)) ∧ f = .unhashable .list ∨
      (∃ p ps, cfg.get "condition_type" = .object (p :: ps)) ∧ f = .unhashable .object := by
  unfold condition
  dsimp only
  generalize cfg.get "condition_type" = type
  cases type with
  | text name =>
    simp only [requires]
    split
    · split <;> simp
    · simp
  | list xs => cases xs <;> simp [Value.truthy, Value.kind, eq_comm]
  | object fs => cases fs <;> simp [Value.truthy, Value.kind, eq_comm]
  | _ =>
    dsimp only
    split <;> simp

end Rule

/-- How the rule for the type of a node fails on its configuration. -/
inductive Node.Trips (n : Node) : Fault → Prop
  | wait {k : Int} (ht : n.type = "wait") (h : n.config.get "wait_days" = .int k)
      (hk : limit ≤ k.natAbs) : n.Trips .numberTooLarge
  | charge {k : Int} (ht : n.type = "stripe_charge") (h : n.config.get "amount" = .int k)
      (hk : limit ≤ k.natAbs) : n.Trips .numberTooLarge
  | list {x : Value} {xs : List Value} (ht : n.type = "condition")
      (h : n.config.get "condition_type" = .list (x :: xs)) : n.Trips (.unhashable .list)
  | object {p : String × Value} {ps : Fields} (ht : n.type = "condition")
      (h : n.config.get "condition_type" = .object (p :: ps)) : n.Trips (.unhashable .object)

namespace Rules

theorem standard_cases {type : String} {rule : Rule} (h : standard type = some rule) :
    (type = "wait" ∧ rule = .wait) ∨ (type = "stripe_charge" ∧ rule = .charge) ∨
      (type = "condition" ∧ rule = .condition) ∨ ∀ cfg, ∃ ms, rule cfg = .ok ms := by
  unfold standard at h
  split at h <;> cases h
  case h_2 => exact .inl ⟨rfl, rfl⟩
  case h_3 => exact .inr (.inr (.inl ⟨rfl, rfl⟩))
  case h_16 => exact .inr (.inl ⟨rfl, rfl⟩)
  all_goals exact .inr (.inr (.inr fun cfg ↦ ⟨_, rfl⟩))

theorem standard_check_eq_error_iff {n : Node} {f : Fault} :
    standard.check n = .error f ↔ n.Trips f := by
  constructor
  · intro h
    unfold check at h
    split at h
    · next rule hrule =>
      rcases standard_cases hrule with ⟨ht, rfl⟩ | ⟨ht, rfl⟩ | ⟨ht, rfl⟩ | hok
      · obtain ⟨⟨k, hv, hk⟩, rfl⟩ := Rule.wait_eq_error_iff.mp h
        exact .wait ht hv hk
      · obtain ⟨⟨k, hv, hk⟩, rfl⟩ := Rule.charge_eq_error_iff.mp h
        exact .charge ht hv hk
      · rcases Rule.condition_eq_error_iff.mp h with ⟨⟨x, xs, hv⟩, rfl⟩ | ⟨⟨p, ps, hv⟩, rfl⟩
        · exact .list ht hv
        · exact .object ht hv
      · obtain ⟨ms, hms⟩ := hok n.config
        cases hms.symm.trans h
    · cases h
  · intro h
    cases h with
    | wait ht hv hk =>
      simpa only [check, ht, standard] using Rule.wait_eq_error_iff.mpr ⟨⟨_, hv, hk⟩, rfl⟩
    | charge ht hv hk =>
      simpa only [check, ht, standard] using Rule.charge_eq_error_iff.mpr ⟨⟨_, hv, hk⟩, rfl⟩
    | list ht hv =>
      simpa only [check, ht, standard] using
        Rule.condition_eq_error_iff.mpr (.inl ⟨⟨_, _, hv⟩, rfl⟩)
    | object ht hv =>
      simpa only [check, ht, standard] using
        Rule.condition_eq_error_iff.mpr (.inr ⟨⟨_, _, hv⟩, rfl⟩)

end Rules

namespace Review

/-- It can be said what is amiss with free data taken as a node, unless it can be read and the rule
for its type fails on its configuration. -/
theorem messages_answer_iff (v : Value) :
    ((∃ ms, messages .standard v = .ok ms) ↔
        ∀ n f, Node.ofValue v = .ok n → ¬ n.Trips f) ∧
      ∀ f, messages .standard v = .error f ↔ ∃ n, Node.ofValue v = .ok n ∧ n.Trips f := by
  have herror (f : Fault) :
      messages .standard v = .error f ↔ ∃ n, Node.ofValue v = .ok n ∧ n.Trips f := by
    cases hv : Node.ofValue v with
    | ok n => simp [messages_of_read hv, Rules.standard_check_eq_error_iff]
    | error e =>
      obtain ⟨cause, rfl⟩ := Node.ofValue_eq_error hv
      simp [messages, hv, Fault.isFailure]
  refine ⟨?_, herror⟩
  rw [isOk_iff_forall_ne_error, forall_comm]
  simp only [ne_eq, herror, not_exists, not_and]

namespace Sample

def listed : Value := .object [("id", .text "n1"), ("type", .text "condition"),
  ("config", .object [("condition_type", .list [.text "has_tag"])])]

end Sample

theorem not_messages_answer_of_list : ¬ ∀ v : Value, ∃ ms, messages .standard v = .ok ms := by
  intro h
  obtain ⟨ms, hms⟩ := h Sample.listed
  cases hms

end Review

end Automation
