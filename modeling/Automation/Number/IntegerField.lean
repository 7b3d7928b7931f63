import Automation.Number.Numeral

namespace Automation

inductive IntegerReading where
  | integer (n : Int)
  | tooLong
  | unreadable
  deriving DecidableEq, Repr

namespace IntegerField

def plainNat? (cs : List Char) : Option Nat :=
  if cs.head? = some '0' ∧ cs ≠ ['0'] then none else readDigits? cs

def plainInt? : List Char → Option Int
  | '-' :: cs => (plainNat? cs).map fun n ↦ -(n : Int)
  | cs => (plainNat? cs).map Int.ofNat

def isNonzeroDigit (c : Char) : Bool := c.isDigit && c != '0'

def afterZeros? (last : Char) : List Char → Option (List Char)
  | [] => some [last]
  | c :: cs =>
    if c = '0' ∨ c = '_' then afterZeros? c cs
    else if c = '.' then some (last :: c :: cs)
    else if c = '-' ∨ isNonzeroDigit c then some (c :: cs)
    else none

def dropZeros? : List Char → Option (List Char)
  | [] => none
  | c :: cs =>
    if c = '0' then afterZeros? c cs else if isNonzeroDigit c then some (c :: cs) else none

/-- The text without a point and the zeros behind it. Whether the point may stand there alone is for
the caller to say. -/
def dropFraction (bare : Bool) (cs : List Char) : List Char :=
  match cs.dropWhile (· ≠ '.') with
  | [] => cs
  | _ :: zeros =>
    if zeros.all (· == '0') && (bare || !zeros.isEmpty) then cs.takeWhile (· ≠ '.') else cs

def unsigned? (cs : List Char) : Option (Bool × List Char) :=
  let p := takeSign cs
  if p.2.length < cs.length ∧ p.2.head? = some '-' then none else some p

def loose? (cs : List Char) : Option Int := do
  let (negative, body) ← unsigned? (Text.trimBy Text.isWhiteSpace cs)
  let body := dropFraction (cs.getLast? = some '.') (← dropZeros? body)
  let body := (dropUnderscores? body).getD body
  plainInt? (if negative then '-' :: body else body)

/-- The most digits that an integer in a field may have. -/
def mostDigits : Nat := 4300

def isTooLong (cs : List Char) : Bool :=
  let ds := (takeSign cs).2.takeWhile Char.isDigit
  mostDigits < ds.length && ds.head? != some '0'

end IntegerField

def integerOfField (s : String) : IntegerReading :=
  let cs := s.toList
  if IntegerField.isTooLong cs then .tooLong
  else match IntegerField.plainInt? cs <|> IntegerField.loose? cs with
    | some n => .integer n
    | none => .unreadable

end Automation
