import Automation.Number.Shortest

namespace Automation

/-- Where a layout leaves positional notation, and how it writes an exponent. A number is
positional if its decimal point stands at a place in `pointFrom` to `pointTo`, counted from before
its first digit. -/
structure NumberLayout where
  pointFrom : Int
  pointTo : Int
  exponentMark : Char
  exponentWidth : Nat
  keepsPlace : Bool

/-- Positional from 0.0001 to below 10^16, exponents with a sign and at least two digits, and at
least one place after the point in positional notation. -/
def plainLayout : NumberLayout := ⟨-3, 16, 'e', 2, true⟩

def padZeros (width : Nat) (cs : List Char) : List Char :=
  List.replicate (width - cs.length) '0' ++ cs

def natDigits (n : Nat) : List Char := Nat.toDigits 10 n

def intText (n : Int) : String :=
  .ofList ((if n < 0 then ['-'] else []) ++ natDigits n.natAbs)

namespace NumberLayout

variable (l : NumberLayout)

def writeExponent (e : Int) : List Char :=
  l.exponentMark :: (if e < 0 then '-' else '+') :: padZeros l.exponentWidth (natDigits e.natAbs)

def write (ds : List Char) (point : Int) : List Char :=
  if l.pointFrom ≤ point ∧ point ≤ l.pointTo then
    if point ≤ 0 then '0' :: '.' :: (List.replicate (-point).toNat '0' ++ ds)
    else
      let p := point.toNat
      let whole := ds.take p ++ List.replicate (p - ds.length) '0'
      match ds.drop p with
      | [] => if l.keepsPlace then whole ++ ['.', '0'] else whole
      | rest => whole ++ '.' :: rest
  else
    match ds with
    | [] => []
    | [d] => d :: l.writeExponent (point - 1)
    | d :: rest => d :: '.' :: (rest ++ l.writeExponent (point - 1))

end NumberLayout

namespace Binary64

def text : Binary64 → String
  | .nan => "nan"
  | .infinite s => if s then "-inf" else "inf"
  | .finite s m e =>
    let body :=
      if m = 0 then plainLayout.write ['0'] 1
      else
        let d := shortestDecimal m e
        let ds := natDigits d.digits
        plainLayout.write ds (ds.length + d.exponent)
    .ofList ((if s then ['-'] else []) ++ body)

def fixedDigits (m e places : Nat) : List Char :=
  let n := roundRatio (m * Nat.pow 2 e * Nat.pow 10 places) scale
  let ds := padZeros (places + 1) (natDigits n)
  let whole := ds.take (ds.length - places)
  if places = 0 then whole else whole ++ '.' :: ds.drop (ds.length - places)

end Binary64

end Automation
