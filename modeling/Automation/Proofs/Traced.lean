import Automation.Log.Record

namespace Automation.Traced

variable {α β : Type} {P : Log.Record → Prop}

theorem lift_ok_bind (a : α) (f : α → Traced β) : (lift (.ok a) >>= f) = f a := rfl

/-- Whether every record that a computation leaves has a property. -/
def Leaves (P : Log.Record → Prop) (x : Traced α) : Prop := ∀ r ∈ x.records, P r

theorem Leaves.lift (x : Except Fault α) : (Traced.lift x).Leaves P := fun _ h ↦ nomatch h

theorem Leaves.log {r : Log.Record} (h : P r) : (Traced.log r).Leaves P := fun r' hr ↦ by
  rw [List.mem_singleton.mp hr]
  exact h

theorem Leaves.pure (a : α) : (Pure.pure a : Traced α).Leaves P := fun _ h ↦ nomatch h

theorem Leaves.imp {Q : Log.Record → Prop} {x : Traced α} (hx : x.Leaves P) (h : ∀ r, P r → Q r) :
    x.Leaves Q := fun r hr ↦ h r (hx r hr)

theorem Leaves.bind {x : Traced α} {f : α → Traced β} (hx : x.Leaves P)
    (hf : ∀ a, x.outcome = .ok a → (f a).Leaves P) : (x >>= f).Leaves P := by
  intro r hr
  rw [bind_records] at hr
  rcases List.mem_append.mp hr with hr | hr
  · exact hx r hr
  · cases ha : x.outcome with
    | error e => simp [ha] at hr
    | ok a =>
      rw [ha] at hr
      exact hf a ha r hr

end Automation.Traced
