import Automation.Schema.Problem

namespace Automation.Schema

inductive Checked (α : Type) where
  | good (a : α)
  | bad (problems : List Problem)
  deriving Repr

namespace Checked

variable {α β : Type}

def both (x : Checked α) (y : Checked β) : Checked (α × β) :=
  match x, y with
  | .good a, .good b => .good (a, b)
  | .good _, .bad q => .bad q
  | .bad p, .good _ => .bad p
  | .bad p, .bad q => .bad (p ++ q)

def map (f : α → β) : Checked α → Checked β
  | .good a => .good (f a)
  | .bad p => .bad p

instance : Applicative Checked where
  pure := .good
  seq f x := (both f (x ())).map fun p ↦ p.1 p.2

def within (place : Place) : Checked α → Checked α
  | .good a => .good a
  | .bad ps => .bad (ps.map fun p ↦ { p with path := place :: p.path })

/-- A reading that fails at the place it stands at. -/
def flawed (f : Flaw) : Checked α := .bad [⟨[], f⟩]

def toExcept (model : String) : Checked α → Except Report α
  | .good a => .ok a
  | .bad ps => .error ⟨model, ps⟩

@[simp] theorem pure_eq (a : α) : (pure a : Checked α) = .good a := rfl

@[simp] theorem map_good (f : α → β) (a : α) : f <$> Checked.good a = .good (f a) := rfl

theorem seq_eq_good_iff {f : Checked (α → β)} {x : Checked α} {b : β} :
    f <*> x = .good b ↔ ∃ g a, f = .good g ∧ x = .good a ∧ g a = b := by
  cases f <;> cases x <;> simp [Seq.seq, both, map]

@[simp] theorem within_eq_good_iff {place : Place} {x : Checked α} {a : α} :
    x.within place = .good a ↔ x = .good a := by
  cases x <;> simp [within]

@[simp] theorem toExcept_eq_ok_iff {model : String} {x : Checked α} {a : α} :
    x.toExcept model = .ok a ↔ x = .good a := by
  cases x <;> simp [toExcept]

end Checked

end Automation.Schema
