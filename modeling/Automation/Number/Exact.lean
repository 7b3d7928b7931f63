import Automation.Number.Numeral

namespace Automation

inductive ExactDecimal where
  | finite (negative : Bool) (digits : Nat) (exponent : Int)
  | infinite (negative : Bool)
  | undefined (negative signals : Bool) (payload : List Char)
  deriving DecidableEq, Repr

namespace ExactDecimal

def isZero : ExactDecimal → Bool
  | .finite _ n _ => n == 0
  | _ => false

/-- The largest exponent that the first digit of a decimal may have, and the least that the last one
may have. -/
def maxExponent : Int := 999999999999999999

def minExponent : Int := -1999999999999999997

def isInRange : ExactDecimal → Bool
  | .finite _ n e => minExponent ≤ e && e + (digitCount n : Int) - 1 ≤ maxExponent
  | _ => true

def sign (negative : Bool) : List Char := if negative then ['-'] else []

/-- Positional as long as the digits reach the point and at most five zeros stand behind it. An
exponent has a sign and no zeros in front. -/
def layout (digits : Nat) : NumberLayout := ⟨-5, digits, 'E', 0, false⟩

def body (n : Nat) (e : Int) : List Char :=
  let ds := natDigits n
  (layout ds.length).write ds (ds.length + e)

def text : ExactDecimal → String
  | .finite s n e => .ofList (sign s ++ body n e)
  | .infinite s => .ofList (sign s ++ "Infinity".toList)
  | .undefined s signals payload =>
    .ofList (sign s ++ (if signals then ['s'] else []) ++ "NaN".toList ++ payload)

def ofWord? (negative : Bool) (cs : List Char) : Option ExactDecimal :=
  let letters := cs.takeWhile fun c ↦ !c.isDigit
  let digits := cs.dropWhile fun c ↦ !c.isDigit
  let word := String.ofList (letters.map Char.toLower)
  if !digits.all Char.isDigit then none
  else if word = "nan" ∨ word = "snan" then
    some (.undefined negative (word == "snan") (digits.dropWhile (· == '0')))
  else if (word = "inf" ∨ word = "infinity") ∧ digits = [] then some (.infinite negative)
  else none

/-- A decimal in free text: blanks around it and underscores anywhere count for nothing, and digits
are those of any script. -/
def ofText? (s : String) : Option ExactDecimal :=
  let cs := ((Text.trim s.toList).filter (· ≠ '_')).map Text.toPlainDigit
  let (negative, cs) := takeSign cs
  match readDecimal? cs with
  | some d => some (.finite negative d.digits d.exponent)
  | none => ofWord? negative cs

def ofInt (n : Int) : ExactDecimal := .finite (n < 0) n.natAbs 0

def ofBinary : Binary64 → ExactDecimal
  | .nan => .undefined false false []
  | .infinite s => .infinite s
  | .finite s m e =>
    let quanta := m * Nat.pow 2 e
    let halvings := (Binary64.scale / Nat.gcd quanta Binary64.scale).log2
    .finite s (quanta / (Binary64.scale / Nat.pow 2 halvings) * Nat.pow 5 halvings) (-halvings)

def toBinary? : ExactDecimal → Option Binary64
  | .finite s n e => some (.ofDecimal s ⟨n, e⟩)
  | .infinite s => some (.infinite s)
  | .undefined _ signals _ => if signals then none else some .nan

def reduce : Nat → Nat → Int → Nat × Int
  | 0, n, e => (n, e)
  | fuel + 1, n, e => if n ≠ 0 ∧ n % 10 = 0 then reduce fuel (n / 10) (e + 1) else (n, e)

def least (n : Nat) (e : Int) : Nat × Int :=
  if n = 0 then (0, 0) else reduce (natDigits n).length n e

end ExactDecimal

end Automation
