import Mathlib.Data.List.Forall2

namespace Automation

variable {α β : Type} {xs : List α}

theorem exists_of_forall₂ {R : α → β → Prop} {ys : List β} {y : β}
    (h : List.Forall₂ R xs ys) (hy : y ∈ ys) : ∃ x ∈ xs, R x y := by
  induction h with
  | nil => cases hy
  | @cons a b _ _ hab _ ih =>
    rcases List.mem_cons.mp hy with rfl | hy
    · exact ⟨a, List.mem_cons_self, hab⟩
    · obtain ⟨x, hx, hxy⟩ := ih hy
      exact ⟨x, List.mem_cons_of_mem a hx, hxy⟩

theorem flatten_eq_nil_iff_of_forall₂ {R : α → List β → Prop} {P : α → Prop} {parts : List (List β)}
    (hR : ∀ x part, R x part → (part = [] ↔ P x))
    (h : List.Forall₂ R xs parts) : parts.flatten = [] ↔ ∀ x ∈ xs, P x := by
  induction h with
  | nil => simp
  | @cons x part _ _ hpart _ ih =>
    rw [List.flatten_cons, List.append_eq_nil_iff, hR x part hpart, ih, List.forall_mem_cons]

theorem forall_mem_zipIdx_fst {P : α → Prop} {k : Nat} :
    (∀ p ∈ xs.zipIdx k, P p.1) ↔ ∀ x ∈ xs, P x := by
  rw [← List.forall_mem_map (f := Prod.fst) (l := xs.zipIdx k), List.zipIdx_map_fst]

section

variable [BEq α]

theorem loop_eraseReps (a : α) (as acc : List α) :
    List.eraseRepsBy.loop (· == ·) a as acc =
      acc.reverse ++ List.eraseRepsBy.loop (· == ·) a as [] := by
  induction as generalizing a acc with
  | nil => simp [List.eraseRepsBy.loop]
  | cons b as ih =>
    cases h : a == b with
    | true => simp only [List.eraseRepsBy.loop, h, ih a acc]
    | false =>
      simp only [List.eraseRepsBy.loop, h]
      rw [ih b (a :: acc), ih b [a], List.reverse_cons, List.append_assoc]
      rfl

variable [LawfulBEq α] {x : α}

theorem eraseReps_cons_self (a : α) (as : List α) :
    (a :: a :: as).eraseReps = (a :: as).eraseReps := by
  simp only [List.eraseReps, List.eraseRepsBy, List.eraseRepsBy.loop, beq_self_eq_true]

theorem eraseReps_cons_of_ne {a b : α} (h : a ≠ b) (as : List α) :
    (a :: b :: as).eraseReps = a :: (b :: as).eraseReps := by
  simp only [List.eraseReps, List.eraseRepsBy, List.eraseRepsBy.loop, beq_false_of_ne h]
  exact loop_eraseReps b as [a]

theorem mem_eraseReps {as : List α} : x ∈ as.eraseReps ↔ x ∈ as := by
  induction as with
  | nil => rfl
  | cons a as ih =>
    cases as with
    | nil => rfl
    | cons b as =>
      by_cases h : a = b
      · subst h
        simp [eraseReps_cons_self, ih]
      · rw [eraseReps_cons_of_ne h, List.mem_cons, ih, ← List.mem_cons]

end

theorem pairwise_eraseReps {ss : List String} (h : ss.Pairwise (· ≤ ·)) :
    ss.eraseReps.Pairwise (· < ·) := by
  induction ss with
  | nil => exact .nil
  | cons a ss ih =>
    obtain ⟨ha, hss⟩ := List.pairwise_cons.mp h
    cases ss with
    | nil => exact List.pairwise_singleton _ _
    | cons b ss =>
      by_cases hab : a = b
      · subst hab
        rw [eraseReps_cons_self]
        exact ih hss
      · rw [eraseReps_cons_of_ne hab]
        refine .cons (fun s hs ↦ String.not_le.mp fun hsa ↦ hab ?_) (ih hss)
        -- Whatever follows the second text is no less than it, so it is beyond the first one too.
        have hbs : b ≤ s := by
          rcases List.mem_cons.mp (mem_eraseReps.mp hs) with rfl | hm
          · exact String.le_refl s
          · exact (List.pairwise_cons.mp hss).1 s hm
        exact String.le_antisymm (ha b List.mem_cons_self) (String.le_trans hbs hsa)

end Automation
