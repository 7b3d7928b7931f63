import Automation.Number.Layout

namespace Automation.Binary64

def powerReaching (n : Nat) : Nat := if n ≤ 1 then 0 else digitCount (n - 1)

/-- The first `count` digits of a positive fraction and the power of ten of the first one, a tie to
the even digit. -/
def leading (num den count : Nat) : List Char × Int :=
  let power : Int :=
    if den ≤ num then (digitCount (num / den) : Int) - 1
    else -(powerReaching ((den + num - 1) / num) : Int)
  let shift := (count : Int) - 1 - power
  let n :=
    if 0 ≤ shift then roundRatio (num * Nat.pow 10 shift.toNat) den
    else roundRatio num (den * Nat.pow 10 (-shift).toNat)
  if n = Nat.pow 10 count then (natDigits (Nat.pow 10 (count - 1)), power + 1)
  else (natDigits n, power)

def significant (m e count : Nat) : List Char × Int :=
  if m = 0 then (List.replicate count '0', 0) else leading (m * Nat.pow 2 e) scale count

def scientific (ds : List Char) (power : Int) : List Char :=
  (match ds with
    | [] | [_] => ds
    | d :: rest => d :: '.' :: rest) ++ plainLayout.writeExponent power

def scientificDigits (m e places : Nat) : List Char :=
  let (ds, power) := significant m e (places + 1)
  scientific ds power

def dropZeros (ds : List Char) : List Char := (ds.reverse.dropWhile (· == '0')).reverse

def mostDigits : Nat := 1100

/-- `m * 2 ^ e` quanta in `count` digits, positional unless the number is small or large for them.
Zeros at the end of the part after the point are kept only on demand. -/
def generalDigits (m e count : Nat) (keepZeros : Bool) : List Char :=
  let kept := if keepZeros then max count 1 else min (max count 1) mostDigits
  let (ds, power) := significant m e kept
  let shorten (whole part : List Char) : List Char :=
    let part := if keepZeros then part else dropZeros part
    if part = [] then whole else whole ++ '.' :: part
  if -4 ≤ power ∧ power < (max count 1 : Nat) then
    if power < 0 then shorten ['0'] (List.replicate (-power - 1).toNat '0' ++ ds)
    else shorten (ds.take (power.toNat + 1)) (ds.drop (power.toNat + 1))
  else shorten (ds.take 1) (ds.drop 1) ++ plainLayout.writeExponent power

end Automation.Binary64
