import Automation.Number.Binary64

namespace Automation

structure Decimal where
  digits : Nat
  exponent : Int
  deriving DecidableEq, Repr

structure Interval where
  low : Nat
  value : Nat
  high : Nat
  denominator : Nat
  closed : Bool

namespace Interval

/-- The interval of the numbers nearest to `significand * 2 ^ exponent` quanta. The neighbour below
a power of two is at half the distance. -/
def around (significand exponent : Nat) : Interval :=
  let gap := Nat.pow 2 exponent
  { low := 4 * significand * gap -
      (if significand = Nat.pow 2 52 ∧ 0 < exponent then gap else 2 * gap)
    value := 4 * significand * gap
    high := 4 * significand * gap + 2 * gap
    denominator := 4 * Binary64.scale
    closed := significand % 2 = 0 }

def inUnits (i : Interval) (g : Int) : Interval :=
  if 0 ≤ g then { i with denominator := i.denominator * Nat.pow 10 g.toNat }
  else
    let k := Nat.pow 10 (-g).toNat
    { i with low := i.low * k, value := i.value * k, high := i.high * k }

def mem (i : Interval) (n : Nat) : Bool :=
  let x := n * i.denominator
  if i.closed then i.low ≤ x && x ≤ i.high else i.low < x && x < i.high

def nearest? (i : Interval) : Option Nat :=
  let a := i.value / i.denominator
  let r := i.value % i.denominator
  match i.mem a, i.mem (a + 1) with
  | false, false => none
  | true, false => some a
  | false, true => some (a + 1)
  | true, true =>
    if 2 * r < i.denominator then some a
    else if i.denominator < 2 * r then some (a + 1)
    else some (a + a % 2)

/-- The first grid with a point in the interval, from `10 ^ g` downwards through `fuel` grids. -/
def shortest (i : Interval) (g : Int) : Nat → Decimal
  | 0 => ⟨0, 0⟩
  | fuel + 1 =>
    match (i.inUnits g).nearest? with
    | some n => ⟨n, g⟩
    | none => shortest i (g - 1) fuel

end Interval

def digitCount (n : Nat) : Nat := (Nat.toDigits 10 n).length

/-- The shortest decimal that reads back as `significand * 2 ^ exponent` quanta. The first grid is
coarser than the number; grids below 10^-400 are finer than the quantum. -/
def shortestDecimal (significand exponent : Nat) : Decimal :=
  let i := Interval.around significand exponent
  let top := digitCount (i.value / i.denominator)
  i.shortest top (top + 400)

end Automation
