import Automation.Proofs.Value.Same

namespace Automation

namespace Binary64

theorem scale_pos : 0 < scale := by
  unfold scale
  -- the power is too large to be evaluated
  generalize 1074 = k
  exact Nat.pow_pos (by decide)

theorem magnitude_eq_zero_iff (x : Binary64) : x.magnitude = .exact 0 ↔ x.isZero = true := by
  cases x with
  | finite s m e =>
    have hp : 0 < Nat.pow 2 e := Nat.two_pow_pos e
    have hq : m * Nat.pow 2 e = 0 ↔ m = 0 := by
      rw [Nat.mul_eq_zero]
      omega
    simp only [magnitude, quanta?, isZero, Option.getD_some, Magnitude.exact.injEq, beq_iff_eq]
    rw [← hq]
    split <;> omega
  | _ => simp [magnitude, isZero]

end Binary64

namespace ExactDecimal

theorem reduce_eq_zero_iff (fuel n : Nat) (e : Int) : (reduce fuel n e).1 = 0 ↔ n = 0 := by
  induction fuel generalizing n e with
  | zero => rfl
  | succ fuel ih =>
    rw [reduce]
    split
    · rw [ih]
      omega
    · rfl

theorem least_eq_zero_iff (n : Nat) (e : Int) : (least n e).1 = 0 ↔ n = 0 := by
  unfold least
  split
  · next hn => simp [hn]
  · exact reduce_eq_zero_iff _ n e

theorem least_zero (e : Int) : least 0 e = (0, 0) := rfl

theorem magnitude_eq_zero_iff (d : ExactDecimal) : d.magnitude = .exact 0 ↔ d.isZero = true := by
  cases d with
  | finite s n e =>
    have hsigned (q : Nat) : (if s then -(q : Int) else q) = 0 ↔ q = 0 := by
      split <;> omega
    have hs := Binary64.scale_pos
    rcases hl : least n e with ⟨m, k⟩
    have hm : m = 0 ↔ n = 0 := by
      have := least_eq_zero_iff n e
      rwa [hl] at this
    simp only [magnitude, isZero, beq_iff_eq, hl]
    split
    · have hp : 0 < Nat.pow 10 k.toNat := Nat.pow_pos (by decide)
      rw [Magnitude.exact.injEq, hsigned, Nat.mul_eq_zero, Nat.mul_eq_zero, ← hm]
      omega
    · next hk =>
      split
      · next hd =>
        have hq := Nat.div_add_mod (m * Binary64.scale) (Nat.pow 10 (-k).toNat)
        rw [Magnitude.exact.injEq, hsigned, ← hm]
        constructor
        · intro h0
          rw [h0, hd.2.2, Nat.mul_zero, eq_comm, Nat.mul_eq_zero] at hq
          omega
        · rintro rfl
          rw [Nat.zero_mul, Nat.zero_div]
      · refine ⟨by rintro ⟨⟩, ?_⟩
        -- the decimal zero is written out
        rintro rfl
        rw [least_zero] at hl
        cases hl
        exact absurd ⟨Int.le_refl 0, by decide⟩ hk
  | _ => simp [magnitude, isZero]

end ExactDecimal

def Key.isGiven : Key → Bool
  | .null => false
  | .number m => m != .exact 0
  | .text s => s != ""
  | .special s => s.truthy

namespace Special

theorem isGiven_key (s : Special) : s.key.isGiven = s.truthy := by
  cases s with
  | decimal d =>
    rw [Bool.eq_iff_iff]
    simp [key, Key.isGiven, truthy, ExactDecimal.magnitude_eq_zero_iff]
  | _ => rfl

end Special

namespace Value

variable {v w : Value}

theorem truthy_of_key? {k : Key} (h : v.key? = some k) : v.truthy = k.isGiven := by
  have hs := Binary64.scale_pos
  cases v with
  | list xs => cases h
  | object fs => cases h
  | null => cases h; rfl
  | text s => cases h; rfl
  | special s =>
    cases h
    exact s.isGiven_key.symm
  | bool b =>
    cases h
    generalize Binary64.scale = q at hs ⊢
    cases b
    · rfl
    · simp [truthy, Key.isGiven]
      omega
  | int n =>
    cases h
    generalize Binary64.scale = q at hs ⊢
    rw [Bool.eq_iff_iff]
    simp [truthy, Key.isGiven]
    omega
  | float x =>
    cases h
    rw [Bool.eq_iff_iff]
    simp [truthy, Key.isGiven, Binary64.magnitude_eq_zero_iff]

theorem orElse_of_truthy (h : v.truthy = true) : v.orElse w = v := if_pos h

theorem orElse_of_not_truthy (h : v.truthy = false) : v.orElse w = w := by
  rw [orElse, h]
  rfl

theorem sameItems_isEmpty {xs ys : List Value} (h : sameItems xs ys = true) :
    xs.isEmpty = ys.isEmpty := by
  cases xs <;> cases ys <;> simp_all [sameItems]

theorem truthy_of_same (h : v.same w = true) : v.truthy = w.truthy := by
  have hk := key?_eq_of_same h
  cases hv : v.key? with
  | some a => rw [truthy_of_key? hv, truthy_of_key? (hk ▸ hv)]
  | none =>
    cases v with
    | list xs =>
      cases w with
      | list ys =>
        rw [same] at h
        rw [truthy, truthy, sameItems_isEmpty h]
      | _ => simp [same] at h
    | object fs =>
      cases w with
      | object gs =>
        rw [same, Bool.and_eq_true] at h
        have hl : fs.length = gs.length := eq_of_beq h.1
        rw [truthy, truthy, Bool.not_eq_eq_eq_not, Bool.not_not, Bool.eq_iff_iff,
          List.isEmpty_iff_length_eq_zero, List.isEmpty_iff_length_eq_zero, hl]
      | _ => simp [same] at h
    | _ => cases hv

end Value

end Automation
