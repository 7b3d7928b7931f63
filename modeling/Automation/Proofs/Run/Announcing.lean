import Automation.Proofs.Run.Arrival
import Automation.Proofs.Workflow.Amount

namespace Automation

namespace Action

variable {n : Node} {c : Context} {s : Situation} {o : Outcome}

theorem wait_output (h : wait.act n c s = .ok o) : ∃ rest, o.output =
    .text ("Waiting " ++ (n.config.get "wait_days").shown ++ " " ++ rest) := by
  simp only [wait, describing, map_eq_ok_iff] at h
  obtain ⟨output, hout, rfl⟩ := h
  have hout := (Except.ok.inj hout).symm
  exact ⟨_, hout.trans (congrArg Value.text String.append_assoc)⟩

theorem charge_output (h : charge.act n c s = .ok o) : ∃ rest, o.output =
    .text ("Stripe charge of $" ++ (n.config.get "amount").shown ++ " queued for " ++ rest) := by
  simp only [charge, describing, map_eq_ok_iff] at h
  obtain ⟨output, hout, rfl⟩ := h
  exact ⟨c.contact.email.shown, (Except.ok.inj hout).symm⟩

end Action

namespace Engine

open Run

variable {e : Engine} {rules : Rules} {clock : Clock} {trigger nodes payload edges : Value}
  {raw : List Value} {a : Arrival}

theorem Reaches.nodeAt (h : e.Reaches rules clock trigger nodes payload edges a)
    (hraw : nodes.elementsIfGiven = .ok raw) :
    ∃ i, a.index = i + 1 ∧ Result.NodeAt raw i a.node := by
  obtain ⟨ns, c, hp, ha⟩ := h
  obtain ⟨raw', -, hraw', -, -, -, hns, -⟩ := prepare_eq_ready_iff.mp hp
  obtain rfl : raw = raw' := Except.ok.inj (hraw.symm.trans hraw')
  obtain ⟨i, hindex, hn⟩ := ha.getElem?_node
  exact ⟨i, by omega, Result.nodeAt_of_mapM hns hn⟩

theorem Reaches.standard_check {unknownCondition : Bool}
    (h : Reaches { unknownCondition } .standard clock trigger nodes payload edges a) :
    Rules.standard.check a.node = .ok [] := by
  have hstill (a : Arrival) : (Actions.standard.find a.node.type).amend a.rules = a.rules :=
    Actions.standard_leave a.node.type a.rules
  obtain ⟨ns, c, hp, ha⟩ := h
  have hrules : a.rules = .standard := ha.rules_eq fun a _ ↦ hstill a
  have hcheck : a.rules.check a.node = .ok [] :=
    Reaches.check_eq ⟨ns, c, hp, ha⟩ fun a _ ↦ hstill a
  rwa [hrules] at hcheck

/-- The rules for amounts let through what is no flag and is read as a number that is large enough,
or as `nan`. So does a run: each wait and each charge that it tells of is of such an amount. -/
theorem amounts_are_guarded (unknownCondition : Bool) (clock : Clock)
    (trigger nodes payload edges : Value) :
    (∀ v n ms, Node.ofValue v = .ok n → n.type = "wait" → Review.messages .standard v = .ok ms →
      ("Wait duration must be at least 1" ∉ ms ↔
        (n.config.get "wait_days").Spells fun x ↦ x = .nan ∨ Binary64.one.le x = true)) ∧
    (∀ v n, Node.ofValue v = .ok n → n.type = "stripe_charge" →
      (Review.messages .standard v = .ok [] ↔
        (n.config.get "amount").Spells fun x ↦ x = .nan ∨ Binary64.zero.lt x = true)) ∧
    ∀ r raw, (Engine.run { unknownCondition } .standard clock trigger nodes payload edges).outcome =
        .ok r → nodes.elementsIfGiven = .ok raw →
      ∀ (i : Nat) step, r.steps[i]? = some step → step.status = .success →
        ∃ n, Result.NodeAt raw i n ∧ step.nodeType = n.type ∧
          (n.type = "wait" →
            (n.config.get "wait_days").Spells (fun x ↦ x = .nan ∨ Binary64.one.le x = true) ∧
            ∃ rest, step.output =
              .text ("Waiting " ++ (n.config.get "wait_days").shown ++ " " ++ rest)) ∧
          (n.type = "stripe_charge" →
            (n.config.get "amount").Spells (fun x ↦ x = .nan ∨ Binary64.zero.lt x = true) ∧
            ∃ rest, step.output =
              .text ("Stripe charge of $" ++ (n.config.get "amount").shown ++ " queued for " ++
                rest)) := by
  refine ⟨?_, ?_, ?_⟩
  · intro v n ms hv ht hms
    rw [Review.messages_of_read hv] at hms
    exact Rule.wait_admits_iff (by simpa only [Rules.check, ht, Rules.standard] using hms)
  · intro v n hv ht
    rw [Review.messages_of_read hv]
    simp only [Rules.check, ht, Rules.standard]
    exact Rule.charge_admits_iff
  · intro r raw hr hraw i step hi hs
    obtain ⟨a, d, ha, hindex, hd⟩ := reaches_of_step hr hi
    obtain ⟨j, hj, hn⟩ := ha.nodeAt hraw
    obtain rfl : j = i := by omega
    have hcheck := ha.standard_check
    rcases attempt_eq_ok_iff.mp hd with ⟨m, -, rfl, -⟩ | ⟨o, b, -, hact, -, rfl, -⟩
    · cases hs
    · refine ⟨a.node, hn, rfl, ?_, ?_⟩
      · intro ht
        rw [ht] at hact
        have hwait : Rule.wait a.node.config = .ok [] := by
          simpa only [Rules.check, ht, Rules.standard] using hcheck
        exact ⟨(Rule.wait_admits_iff hwait).mp List.not_mem_nil, Action.wait_output hact⟩
      · intro ht
        rw [ht] at hact
        have hcharge : Rule.charge a.node.config = .ok [] := by
          simpa only [Rules.check, ht, Rules.standard] using hcheck
        exact ⟨Rule.charge_admits_iff.mp hcharge, Action.charge_output hact⟩

end Engine

namespace Sample

def waiting (days : Value) : Value := .object [("id", .text "n1"), ("type", .text "wait"),
  ("config", .object [("wait_days", days), ("wait_unit", .text "days")])]

def charging (amount : Value) : Value := .object [("id", .text "n2"),
  ("type", .text "stripe_charge"), ("config", .object [("amount", amount)])]

end Sample

theorem Engine.amounts_are_guarded_sample :
    ((Value.int 3).Spells fun x ↦ x = .nan ∨ Binary64.one.le x = true) ∧
    ((Value.text "49.99").Spells fun x ↦ x = .nan ∨ Binary64.zero.lt x = true) ∧
    ∃ r, (Engine.run {} .standard Sample.clock Sample.trigger
        (.list [Sample.waiting (.int 3), Sample.charging (.text "49.99")])
        (.object []) .null).outcome = .ok r ∧
      r.steps.map Step.status = [.success, .success] ∧
      ∀ (i : Nat) step, r.steps[i]? = some step → step.status = .success →
        step.nodeType = "stripe_charge" → ∃ amount : Value, ∃ rest,
          (amount.Spells fun x ↦ x = .nan ∨ Binary64.zero.lt x = true) ∧
          step.output = .text ("Stripe charge of $" ++ amount.shown ++ " queued for " ++ rest) := by
  obtain ⟨hwait, hcharge, hrun⟩ := Engine.amounts_are_guarded true Sample.clock Sample.trigger
    (.list [Sample.waiting (.int 3), Sample.charging (.text "49.99")]) (.object []) .null
  have hout : (Engine.run {} .standard Sample.clock Sample.trigger
      (.list [Sample.waiting (.int 3), Sample.charging (.text "49.99")]) (.object [])
        .null).outcome.map (fun r ↦ r.steps.map Step.status) = .ok [.success, .success] := by
    decide +kernel
  obtain ⟨r, hr, hsteps⟩ := map_eq_ok_iff.mp hout
  have hdays : Review.messages .standard (Sample.waiting (.int 3)) = .ok [] := by decide +kernel
  have hamount : Review.messages .standard (Sample.charging (.text "49.99")) = .ok [] := by
    decide +kernel
  refine ⟨?_, ?_, r, hr, hsteps, ?_⟩
  · exact (hwait _ _ [] rfl rfl hdays).mp List.not_mem_nil
  · exact (hcharge _ _ rfl rfl).mp hamount
  · intro i step hi hs ht
    obtain ⟨n, -, htype, -, htells⟩ := hrun r _ hr (Value.elementsIfGiven_list _) i step hi hs
    obtain ⟨hspells, rest, hout⟩ := htells (htype.symm.trans ht)
    exact ⟨n.config.get "amount", rest, hspells, hout⟩

theorem Engine.not_amounts_are_guarded_of_nan : ¬ ∀ v n ms, Node.ofValue v = .ok n →
    n.type = "wait" → Review.messages .standard v = .ok ms →
    "Wait duration must be at least 1" ∉ ms →
    (n.config.get "wait_days").Spells fun x ↦ Binary64.one.le x = true := by
  intro hall
  have hms : Review.messages .standard (Sample.waiting (.text "nan")) = .ok [] := by decide +kernel
  obtain ⟨-, x, hx, hle⟩ := hall (Sample.waiting (.text "nan")) _ [] rfl rfl hms List.not_mem_nil
  have hnan : (Value.text "nan").asNumber = .number .nan := by decide +kernel
  obtain rfl : Binary64.nan = x := NumberReading.number.inj (hnan.symm.trans hx)
  exact Bool.false_ne_true hle

end Automation
