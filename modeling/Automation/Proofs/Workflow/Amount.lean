import Automation.Proofs.Number.Order
import Automation.Proofs.Workflow.Issues

namespace Automation

/-- Whether a value is no flag and is read as a number with a property. -/
def Value.Spells (P : Binary64 → Prop) (v : Value) : Prop :=
  (∀ b, v ≠ .bool b) ∧ ∃ x, v.asNumber = .number x ∧ P x

namespace Rule

variable {cfg : Fields} {v : Value} {ms : List String} {test : Binary64 → Bool}

theorem amount_eq_some_iff {x : Binary64} :
    amount v = .ok (some x) ↔ (∀ b, v ≠ .bool b) ∧ v.asNumber = .number x := by
  unfold amount
  split
  · simp
  · next hflag =>
    have hno : ∀ b, v ≠ .bool b := fun b h ↦ hflag b h
    rw [and_iff_right hno]
    split <;> simp_all

theorem any_amount_iff {found : Option Binary64} (h : amount v = .ok found) :
    found.any test = true ↔ v.Spells fun x ↦ test x = true := by
  constructor
  · intro ht
    cases found with
    | none => cases ht
    | some x =>
      obtain ⟨hflag, hread⟩ := amount_eq_some_iff.mp h
      exact ⟨hflag, x, hread, ht⟩
  · intro hs
    obtain ⟨hflag, x, hread, hx⟩ := hs
    have hsome : amount v = .ok (some x) := amount_eq_some_iff.mpr ⟨hflag, hread⟩
    obtain rfl : found = some x := Except.ok.inj (h.symm.trans hsome)
    exact hx

theorem wait_admits_iff (h : wait cfg = .ok ms) :
    "Wait duration must be at least 1" ∉ ms ↔
      (cfg.get "wait_days").Spells fun x ↦ x = .nan ∨ Binary64.one.le x = true := by
  obtain ⟨found, hfound, rfl⟩ := map_eq_ok_iff.mp h
  have hnan : Binary64.one ≠ .nan := by decide
  have hunit : "Wait duration must be at least 1" ∉
      ifNot (cfg.get "wait_unit").truthy "Wait unit is required" := by
    unfold ifNot
    split <;> simp
  have hpassed (passed : Bool) : "Wait duration must be at least 1" ∉
      ifNot passed "Wait duration must be at least 1" ↔ passed = true := by
    cases passed <;> simp [ifNot]
  rw [List.mem_append, not_or, and_iff_left hunit, hpassed, any_amount_iff hfound]
  simp only [Binary64.not_lt_iff hnan]

theorem charge_admits_iff : charge cfg = .ok [] ↔
    (cfg.get "amount").Spells fun x ↦ x = .nan ∨ Binary64.zero.lt x = true := by
  have hnan : Binary64.zero ≠ .nan := by decide
  simp only [← Binary64.not_le_iff hnan]
  constructor
  · intro h
    obtain ⟨found, hfound, hnone⟩ := map_eq_ok_iff.mp h
    refine (any_amount_iff hfound).mp ?_
    by_contra hfailed
    simp [ifNot, hfailed] at hnone
  · intro hs
    obtain ⟨hflag, x, hread, hx⟩ := hs
    have hsome : amount (cfg.get "amount") = .ok (some x) := amount_eq_some_iff.mpr ⟨hflag, hread⟩
    exact map_eq_ok_iff.mpr ⟨some x, hsome, by simp [ifNot, hx]⟩

end Rule

end Automation
