import Automation.Value.Basic

namespace Automation

/-- What a number measures, in quanta. -/
inductive Magnitude where
  | undefined
  | unbounded (negative : Bool)
  | exact (quanta : Int)
  | other (negative : Bool) (digits : Nat) (exponent : Int)
  deriving DecidableEq, Repr

/-- What is left of a value other than a list or an object when its kind is forgotten. -/
inductive Key where
  | null
  | number (m : Magnitude)
  | text (s : String)
  | special (s : Special)
  deriving DecidableEq, Repr

def Binary64.magnitude : Binary64 → Magnitude
  | .nan => .undefined
  | .infinite s => .unbounded s
  | x => .exact (x.quanta?.getD 0)

def ExactDecimal.reach : Int := 5000

def ExactDecimal.magnitude : ExactDecimal → Magnitude
  | .undefined .. => .undefined
  | .infinite s => .unbounded s
  | .finite s n e =>
    let (n, e) := least n e
    let signed (q : Nat) : Magnitude := .exact (if s then -(q : Int) else q)
    if 0 ≤ e ∧ e < reach then signed (n * Nat.pow 10 e.toNat * Binary64.scale)
    else if e < 0 ∧ -e < reach ∧ (n * Binary64.scale) % Nat.pow 10 (-e).toNat = 0 then
      signed (n * Binary64.scale / Nat.pow 10 (-e).toNat)
    else .other s n e

def Special.key : Special → Key
  | .decimal d => .number d.magnitude
  | s => .special s.core

namespace Value

def key? : Value → Option Key
  | .null => some .null
  | .bool b => some (.number (.exact (if b then Binary64.scale else 0)))
  | .int n => some (.number (.exact (n * Binary64.scale)))
  | .float x => some (.number x.magnitude)
  | .text s => some (.text s)
  | .special s => some s.key
  | .list _ | .object _ => none

mutual

/-- Numbers are the same if they are equal as numbers, whatever their kinds; `true` and `false` are
one and zero. `nan` is the same as itself. -/
def same : Value → Value → Bool
  | .list xs, w => match w with
    | .list ys => sameItems xs ys
    | _ => false
  | .object fs, w => match w with
    | .object gs => fs.length == gs.length && fieldsWithin fs gs
    | _ => false
  | v, w => match v.key?, w.key? with
    | some a, some b => a == b
    | _, _ => false

def sameItems : List Value → List Value → Bool
  | [], [] => true
  | x :: xs, y :: ys => same x y && sameItems xs ys
  | _, _ => false

def fieldsWithin : List (String × Value) → List (String × Value) → Bool
  | [], _ => true
  | (k, v) :: fs, gs => (match gs.lookup k with
    | some w => same v w
    | none => false) && fieldsWithin fs gs

end

theorem same_of_key?_eq_some {v w : Value} {a : Key} (h : v.key? = some a) :
    same v w = (match w.key? with
      | some b => a == b
      | none => false) := by
  cases v with
  | list xs => cases h
  | object fs => cases h
  | _ =>
    rw [same, h]
    · cases w.key? <;> rfl
    all_goals exact fun _ e ↦ Value.noConfusion e

theorem same_iff_key?_eq {v w : Value} {a : Key} (h : v.key? = some a) :
    same v w = true ↔ w.key? = some a := by
  rw [same_of_key?_eq_some h]
  cases w.key? with
  | none => simp
  | some b =>
    exact ⟨fun e ↦ by rw [eq_of_beq e], fun e ↦ by rw [Option.some.inj e]; exact beq_self_eq_true a⟩

def isNan (v : Value) : Bool := v.key? == some (.number .undefined)

/-- Whether two values compare as equal. `nan` compares with nothing, unless it is inside both. -/
def equals (v w : Value) : Bool := !v.isNan && v.same w

theorem equals_of_not_isNan {v : Value} (h : v.isNan = false) (w : Value) :
    v.equals w = v.same w := by simp [equals, h]

def memberOf (v : Value) (xs : List Value) : Bool := xs.any fun x ↦ x.same v

end Value

end Automation
