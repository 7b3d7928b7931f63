namespace Automation

def roundRatio (num den : Nat) : Nat :=
  let q := num / den
  let r := num % den
  if 2 * r < den then q
  else if den < 2 * r then q + 1
  else q + q % 2

theorem roundRatio_mul {m den : Nat} (h : 0 < den) : roundRatio (m * den) den = m := by
  simp [roundRatio, Nat.mul_div_cancel _ h, h]

/-- A finite number stands for `significand * 2 ^ exponent` quanta of `2 ^ -1074`, and is negative
where `negative` holds, zero included. -/
inductive Binary64 where
  | nan
  | infinite (negative : Bool)
  | finite (negative : Bool) (significand exponent : Nat)
  deriving DecidableEq, Repr, Inhabited

namespace Binary64

def scale : Nat := Nat.pow 2 1074

def maxExponent : Nat := 2045

def zero : Binary64 := .finite false 0 0

def one : Binary64 := .finite false (Nat.pow 2 52) 1022

def pack (negative : Bool) (significand exponent : Nat) : Binary64 :=
  if maxExponent < exponent then .infinite negative else .finite negative significand exponent

/-- The exponent at which `num / den` quanta have a significand of 53 bits, or zero. -/
def exponentFor (num den : Nat) : Nat := (num / den).log2 - 52

def ofQuanta (negative : Bool) (num den : Nat) : Binary64 :=
  let e := exponentFor num den
  let m := roundRatio num (den * Nat.pow 2 e)
  if m = Nat.pow 2 53 then pack negative (Nat.pow 2 52) (e + 1) else pack negative m e

def ofRatio (negative : Bool) (num den : Nat) : Binary64 := ofQuanta negative (num * scale) den

def isFinite : Binary64 → Bool
  | .finite .. => true
  | _ => false

def ofInt? : Int → Option Binary64
  | .ofNat n => Option.guard isFinite (ofRatio false n 1)
  | .negSucc n => Option.guard isFinite (ofRatio true (n + 1) 1)

theorem isFinite_of_ofInt? {n : Int} {x : Binary64} (h : ofInt? n = some x) :
    x.isFinite = true := by
  cases n with
  | ofNat n =>
    obtain ⟨hx, hf⟩ := Option.guard_eq_some_iff.mp h
    exact hx ▸ hf
  | negSucc n =>
    obtain ⟨hx, hf⟩ := Option.guard_eq_some_iff.mp h
    exact hx ▸ hf

def quanta? : Binary64 → Option Int
  | .finite s m e => some (if s then -((m * Nat.pow 2 e : Nat) : Int) else (m * Nat.pow 2 e : Nat))
  | _ => none

def isZero : Binary64 → Bool
  | .finite _ m _ => m == 0
  | _ => false

def toInt? (x : Binary64) : Option Int :=
  x.quanta?.bind fun q ↦ if q % scale = 0 then some (q / scale) else none

/-- The order of numbers: an infinity is beyond every finite number, and `nan` is in no order. -/
def lt : Binary64 → Binary64 → Bool
  | .nan, _ | _, .nan => false
  | .infinite s, .infinite t => s && !t
  | .infinite s, .finite .. => s
  | .finite .., .infinite t => !t
  | x@(.finite ..), y@(.finite ..) => x.quanta?.getD 0 < y.quanta?.getD 0

def le : Binary64 → Binary64 → Bool
  | .nan, _ | _, .nan => false
  | x, y => !lt y x

theorem not_lt_nan (x : Binary64) : lt x .nan = false ∧ lt .nan x = false := by
  cases x <;> simp [lt]

theorem not_le_nan (x : Binary64) : le x .nan = false ∧ le .nan x = false := by
  cases x <;> simp [le]

theorem le_iff_lt_false {x y : Binary64} (hx : x ≠ .nan) (hy : y ≠ .nan) :
    le x y = !lt y x := by
  cases x <;> cases y <;> simp_all [le]

end Binary64

end Automation
