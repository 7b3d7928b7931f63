import Automation.Number.Layout
import Automation.Text.Blank
import Automation.Text.DecimalDigit

namespace Automation

open Text

def digitsValue (ds : List Char) : Nat := ds.foldl (fun n c ↦ 10 * n + (c.toNat - 48)) 0

def takeSign : List Char → Bool × List Char
  | '-' :: cs => (true, cs)
  | '+' :: cs => (false, cs)
  | cs => (false, cs)

def readDigits? (cs : List Char) : Option Nat :=
  if cs ≠ [] ∧ cs.all Char.isDigit then some (digitsValue cs) else none

def readExponent? (cs : List Char) : Option Int :=
  let (negative, ds) := takeSign cs
  (readDigits? ds).map fun n ↦ if negative then -(n : Int) else n

def readDecimal? (cs : List Char) : Option Decimal :=
  let whole := cs.takeWhile Char.isDigit
  let (part, rest) := match cs.dropWhile Char.isDigit with
    | '.' :: r => (r.takeWhile Char.isDigit, r.dropWhile Char.isDigit)
    | r => ([], r)
  if whole = [] ∧ part = [] then none
  else
    let decimal (e : Int) : Decimal := ⟨digitsValue (whole ++ part), e - part.length⟩
    match rest with
    | [] => some (decimal 0)
    | c :: r => if c = 'e' ∨ c = 'E' then (readExponent? r).map decimal else none

namespace Binary64

/-- The number nearest to a decimal. Decimals of 10^310 and more are infinite, and those below
10^-330 are zero, without a look at their digits. -/
def ofDecimal (negative : Bool) (d : Decimal) : Binary64 :=
  if d.digits = 0 then .finite negative 0 0
  else
    let top := d.exponent + digitCount d.digits
    if 310 < top then .infinite negative
    else if top < -330 then .finite negative 0 0
    else if 0 ≤ d.exponent then ofRatio negative (d.digits * Nat.pow 10 d.exponent.toNat) 1
    else ofRatio negative d.digits (Nat.pow 10 (-d.exponent).toNat)

def ofNumeral? (cs : List Char) : Option Binary64 :=
  let (negative, body) := takeSign cs
  let word := String.ofList (body.map Char.toLower)
  if word = "nan" then some .nan
  else if word = "inf" ∨ word = "infinity" then some (.infinite negative)
  else (readDecimal? body).map (ofDecimal negative)

end Binary64

/-- The text without its underscores, each of which has to stand between two digits. -/
def dropGrouping? (afterDigit : Bool) : List Char → Option (List Char)
  | [] => some []
  | c :: cs =>
    if c = '_' then
      if afterDigit && cs.head?.any Char.isDigit then dropGrouping? false cs else none
    else (dropGrouping? c.isDigit cs).map (c :: ·)

def dropUnderscores? (cs : List Char) : Option (List Char) :=
  let doubled := (cs.zip cs.tail).any fun p ↦ p.1 == '_' && p.2 == '_'
  if cs.contains '_' && cs.head? != some '_' && cs.getLast? != some '_' && !doubled then
    some (cs.filter (· != '_'))
  else none

namespace Binary64

def ofText? (s : String) : Option Binary64 :=
  (dropGrouping? false ((trimBy isWhiteSpace s.toList).map toPlainDigit)).bind ofNumeral?

def ofField? (s : String) : Option Binary64 :=
  ofNumeral? (trimBy isWhiteSpace s.toList) <|> (dropUnderscores? s.toList).bind ofNumeral?

end Binary64

end Automation
