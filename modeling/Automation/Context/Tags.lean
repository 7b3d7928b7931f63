import Automation.Fault
import Automation.Value.Identity

namespace Automation.Tags

def firsts (seen : List (Option Key)) : List Value → List Value
  | [] => []
  | v :: vs =>
    if seen.contains v.key? then firsts seen vs else v :: firsts (v.key? :: seen) vs

/-- The first of each group of values that count as the same. Lists and objects cannot be told
apart from others this way. -/
def distinct (vs : List Value) : Except Fault (List Value) :=
  match vs.find? fun v ↦ v.key?.isNone with
  | some v => .error (.unhashable v.kind)
  | none => .ok (firsts [] vs)

def ofTexts (ss : List String) : List Value := firsts [] (ss.map .text)

theorem firsts_sublist (seen : List (Option Key)) (vs : List Value) :
    (firsts seen vs).Sublist vs := by
  induction vs generalizing seen with
  | nil => exact .slnil
  | cons v vs ih =>
    rw [firsts]
    split
    · exact (ih seen).cons v
    · exact (ih _).cons_cons v

theorem distinct_eq_ok_iff {vs ws : List Value} :
    distinct vs = .ok ws ↔ (∀ v ∈ vs, v.key?.isSome = true) ∧ ws = firsts [] vs := by
  unfold distinct
  cases h : vs.find? fun v ↦ v.key?.isNone with
  | some v =>
    have hm := List.mem_of_find?_eq_some h
    have hn := List.find?_some h
    simp only [reduceCtorEq, false_iff, not_and]
    intro hall
    have := hall v hm
    simp_all
  | none =>
    have hn := List.find?_eq_none.1 h
    constructor
    · rintro ⟨⟩
      exact ⟨fun v hv ↦ by have := hn v hv; cases hk : v.key? <;> simp_all, rfl⟩
    · rintro ⟨-, rfl⟩
      rfl

end Automation.Tags
