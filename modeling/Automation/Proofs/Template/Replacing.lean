import Automation.Template
import Mathlib.Data.List.Infix

namespace Automation.Template

variable {old new s t : List Char} {a : Char}

theorem replace_append_left (hold : old ≠ []) (new s : List Char) :
    replace old new (old ++ s) = new ++ replace old new s := by
  cases old with
  | nil => exact absurd rfl hold
  | cons c cs =>
    have hp : (c :: cs).isPrefixOf (c :: (cs ++ s)) = true :=
      List.isPrefixOf_iff_prefix.mpr ((c :: cs).prefix_append s)
    rw [List.cons_append, replace, if_pos hp]
    simp

theorem replace_cons (h : ¬ old <+: a :: s) :
    replace old new (a :: s) = a :: replace old new s := by
  rw [replace, if_neg fun hp ↦ h (List.isPrefixOf_iff_prefix.mp hp)]

theorem replace_eq_self (h : ¬ old <:+: s) : replace old new s = s := by
  induction s with
  | nil => rw [replace]
  | cons a s ih =>
    rw [List.infix_cons_iff, not_or] at h
    rw [replace_cons h.1, ih h.2]

/-- No occurrence begins in a text that lacks its first character. -/
theorem replace_append_of_notMem (h : a ∉ s) (old new t : List Char) :
    replace (a :: old) new (s ++ t) = s ++ replace (a :: old) new t := by
  induction s with
  | nil => rfl
  | cons b s ih =>
    rw [List.mem_cons, not_or] at h
    have hp : ¬ a :: old <+: b :: (s ++ t) := fun hp ↦ h.1 (List.cons_prefix_cons.mp hp).1
    rw [List.cons_append, replace_cons hp, ih h.2, List.cons_append]

theorem exists_countP_replace (hold : old ≠ []) (s : List Char) :
    ∃ k, (k = 0 ↔ ¬ old <:+: s) ∧ ∀ (p : Char → Bool) (new : List Char),
      (replace old new s).countP p + k * old.countP p = s.countP p + k * new.countP p := by
  induction s using replace.induct old with
  | case1 => exact ⟨0, by simp [hold], fun p new ↦ by rw [replace, Nat.zero_mul, Nat.zero_mul]⟩
  | case2 c cs hp ih =>
    obtain ⟨r, hr⟩ := List.isPrefixOf_iff_prefix.mp hp
    have hrest : cs.drop (old.length - 1) = r := by
      cases old with
      | nil => exact absurd rfl hold
      | cons b bs =>
        obtain ⟨rfl, rfl⟩ := List.cons.inj hr
        simp
    rw [hrest] at ih
    obtain ⟨k, -, hk⟩ := ih
    rw [← hr]
    refine ⟨k + 1, iff_of_false (by omega) (not_not.mpr (old.prefix_append r).isInfix),
      fun p new ↦ ?_⟩
    have hcount := hk p new
    rw [replace_append_left hold, List.countP_append, List.countP_append, Nat.add_mul, Nat.add_mul]
    omega
  | case3 c cs hp ih =>
    obtain ⟨k, hzero, hk⟩ := ih
    have hp : ¬ old <+: c :: cs := fun h ↦ hp (List.isPrefixOf_iff_prefix.mpr h)
    refine ⟨k, by rw [List.infix_cons_iff, not_or, hzero, and_iff_right hp], fun p new ↦ ?_⟩
    have hcount := hk p new
    rw [replace_cons hp, List.countP_cons, List.countP_cons]
    omega

/-- Characters of which both texts have as many are as many as before. -/
theorem countP_replace (hold : old ≠ []) {p : Char → Bool} (h : old.countP p = new.countP p)
    (s : List Char) : (replace old new s).countP p = s.countP p := by
  obtain ⟨k, -, hk⟩ := exists_countP_replace hold s
  have hcount := hk p new
  rw [h] at hcount
  exact Nat.add_right_cancel hcount

end Automation.Template
