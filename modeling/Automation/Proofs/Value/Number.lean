import Automation.Proofs.Number.Range
import Automation.Value.Number

namespace Automation.Value

open Binary64

variable {v w : Value} {x : Binary64}

theorem asNumber_eq_tooLarge_iff :
    v.asNumber = .tooLarge ↔ ∃ k, v = .int k ∧ limit ≤ k.natAbs := by
  cases v with
  | int k =>
    simp only [asNumber, int.injEq, exists_eq_left', ← ofInt?_eq_none_iff]
    cases ofInt? k <;> simp
  | text s =>
    simp only [asNumber]
    split <;> simp
  | special s =>
    simp only [asNumber]
    split <;> simp
  | _ => simp [asNumber]

@[simp] theorem asNumber_zero : (Value.int 0).asNumber = .number .zero := by decide +kernel

theorem asNumber_int {n : Int} (h : ofInt? n = some x) : (Value.int n).asNumber = .number x := by
  simp only [asNumber, h]

theorem isZero_of_not_truthy (hv : v.truthy = false) (hx : v.asNumber = .number x) :
    x.isZero = true := by
  cases v with
  | bool b =>
    cases hv
    cases hx
    rfl
  | int n =>
    obtain rfl : n = 0 := by simpa [truthy] using hv
    cases asNumber_zero.symm.trans hx
    rfl
  | float y =>
    cases hx
    simpa [truthy] using hv
  | text s =>
    obtain rfl : s = "" := by simpa [truthy] using hv
    have hempty : (Value.text "").asNumber = .unreadable := by decide +kernel
    cases hempty.symm.trans hx
  | special s =>
    cases s with
    | decimal d =>
      cases d with
      | finite s n e =>
        obtain rfl : n = 0 := by simpa [truthy, Special.truthy, ExactDecimal.isZero] using hv
        cases hx
        rfl
      | _ => cases hv
    | bytes bs =>
      obtain rfl : bs = [] := by simpa [truthy, Special.truthy] using hv
      have hempty : (Value.special (.bytes [])).asNumber = .unreadable := by decide +kernel
      cases hempty.symm.trans hx
    | _ => cases hv
  | _ => cases hx

theorem asNumber_orElse_eq_tooLarge_iff (hw : w.asNumber ≠ .tooLarge) :
    (v.orElse w).asNumber = .tooLarge ↔ ∃ k, v = .int k ∧ limit ≤ k.natAbs := by
  rw [← asNumber_eq_tooLarge_iff]
  cases hv : v.truthy with
  | true => rw [orElse_of_truthy hv]
  | false =>
    rw [orElse_of_not_truthy hv]
    refine iff_of_false hw fun hlarge ↦ ?_
    obtain ⟨k, rfl, hk⟩ := asNumber_eq_tooLarge_iff.mp hlarge
    obtain rfl : k = 0 := by simpa [truthy] using hv
    exact absurd hk (by decide +kernel)

structure Unread (v : Value) : Prop where
  given : v.truthy = true
  unreadable : v.asNumber = .unreadable

theorem Unread.orElse (h : v.Unread) (w : Value) : (v.orElse w).asNumber = .unreadable := by
  rw [orElse_of_truthy h.given]
  exact h.unreadable

theorem asNumber_orElse_eq_unreadable_iff :
    (v.orElse (.int 0)).asNumber = .unreadable ↔ v.Unread := by
  constructor
  · intro h
    cases hv : v.truthy with
    | true =>
      rw [orElse_of_truthy hv] at h
      exact ⟨hv, h⟩
    | false =>
      rw [orElse_of_not_truthy hv] at h
      cases asNumber_zero.symm.trans h
  · intro h
    exact h.orElse (.int 0)

end Automation.Value
