import Automation.Number.Word
import Automation.Queue.Identifier

namespace Automation

namespace Envelope

def typeField : String := "__type__"

def contentField : String := "__value__"

def fault (message : String) : Fault := .foreign .value message

def digitsFault : Fault := fault "coefficient must be a tuple of digits"

def word (name : String) (n : Int) : Except Fault Int :=
  if isWord n then .ok n
  else .error (.argument ("Python int too large to convert to C " ++ name))

def integer? : Value → Option Int
  | .int n => some n
  | .bool b => some b.toInt
  | _ => none

def isNegative (sign : Value) : Except Fault Bool :=
  let signFault := fault "sign must be an integer with the value 0 or 1"
  match integer? sign with
  | none => .error signFault
  | some n => do
    let n ← word "long" n
    if n = 0 ∨ n = 1 then return n = 1 else .error signFault

def digit (v : Value) : Except Fault Char :=
  match integer? v with
  | none => .error digitsFault
  | some n => do
    let n ← word "long" n
    if 0 ≤ n ∧ n ≤ 9 then return .ofNat (48 + n.toNat) else .error digitsFault

def decimalMaker (negative : Bool) : Value → Except Fault (List Char → ExactDecimal)
  | .text "F" => .ok fun _ ↦ .infinite negative
  | .text "n" => .ok fun ds ↦ .undefined negative false (ds.dropWhile (· == '0'))
  | .text "N" => .ok fun ds ↦ .undefined negative true (ds.dropWhile (· == '0'))
  | .text _ => .error (fault "string argument in the third position must be 'F', 'n' or 'N'")
  | v => match integer? v with
    | none => .error (fault "exponent must be an integer")
    | some e => (word "ssize_t" e).map fun e ds ↦ .finite negative (digitsValue ds) e

def decimalOfParts : List Value → Except Fault ExactDecimal
  | [sign, digits, exponent] => do
    let negative ← isNegative sign
    let make ← decimalMaker negative exponent
    match digits with
    | .list ds => return make (← ds.mapM digit)
    | _ => .error digitsFault
  | _ => .error (fault "argument must be a sequence of length 3")

def inRange (d : ExactDecimal) : Except Fault ExactDecimal :=
  if d.isInRange then .ok d else .error (fault "[<class 'decimal.InvalidOperation'>]")

def decimal : Value → Except Fault ExactDecimal
  | .text s => match ExactDecimal.ofText? s with
    | some d => inRange d
    | none => .error (fault "[<class 'decimal.ConversionSyntax'>]")
  | .int n => .ok (.ofInt n)
  | .bool b => .ok (.ofInt b.toInt)
  | .float x => .ok (.ofBinary x)
  | .special (.decimal d) => .ok d
  | .list vs => (decimalOfParts vs).bind inRange
  | v =>
    .error (.argument ("conversion from " ++ v.kind.fullName ++ " to Decimal is not supported"))

def bytes : Value → Except Fault (List UInt8)
  | .text s => .ok s.toUTF8.toList
  | v => .error (.memberless v.kind "encode")

def sextet? (b : UInt8) : Option Nat :=
  let c := Char.ofNat b.toNat
  if 'A' ≤ c ∧ c ≤ 'Z' then some (c.toNat - 65)
  else if 'a' ≤ c ∧ c ≤ 'z' then some (c.toNat - 71)
  else if c.isDigit then some (c.toNat + 4)
  else if c = '+' then some 62
  else if c = '/' then some 63
  else none

/-- The digits to the base 64 up to where padding ends them, and whether it does. Of `seen` digits
some were read before; all else is passed over. -/
def sextets (seen padding : Nat) : List UInt8 → List Nat × Bool
  | [] => ([], false)
  | b :: bs =>
    if b = 61 then
      if 2 ≤ seen % 4 then
        if 4 ≤ seen % 4 + padding + 1 then ([], true) else sextets seen (padding + 1) bs
      else sextets seen padding bs
    else match sextet? b with
      | none => sextets seen padding bs
      | some n =>
        let (ns, ended) := sextets (seen + 1) 0 bs
        (n :: ns, ended)

def bytesOfSextets : List Nat → List UInt8
  | a :: b :: c :: d :: rest =>
    .ofNat (a * 4 + b / 16) :: .ofNat (b * 16 + c / 4) :: .ofNat (c * 64 + d) :: bytesOfSextets rest
  | [a, b, c] => [.ofNat (a * 4 + b / 16), .ofNat (b * 16 + c / 4)]
  | [a, b] => [.ofNat (a * 4 + b / 16)]
  | _ => []

def packedBytes (v : Value) : Except Fault (List UInt8) := do
  let (ns, ended) := sextets 0 0 (← bytes v)
  if ended || ns.length % 4 = 0 then return bytesOfSextets ns
  else if ns.length % 4 = 1 then
    .error (fault ("Invalid base64-encoded string: number of data characters (" ++
      intText ns.length ++ ") cannot be 1 more than a multiple of 4"))
  else .error (fault "Incorrect padding")

def instant (read : String → Except Instant.Unreadable Instant) : Value → Except Fault Instant
  | .text s => (read s).mapError fun u ↦ fault u.message
  | _ => .error (.argument "fromisoformat: argument must be str")

def maker? : String → Option (Value → Except Fault Special)
  | "decimal" => some fun v ↦ (decimal v).map .decimal
  | "bytes" => some fun v ↦ (bytes v).map .bytes
  | "base64" => some fun v ↦ (packedBytes v).map .bytes
  | "uuid" => some fun v ↦ (Identifier.ofValue v).map .identifier
  | "datetime" => some fun v ↦ (instant Instant.read v).map .instant
  | "date" => some fun v ↦ (instant Instant.read v).map fun t ↦
      .day { year := t.year, month := t.month, day := t.day }
  | "time" => some fun v ↦ (instant Instant.readTime v).map .hour
  | _ => none

def openOne (fs : Fields) : Except Fault Value :=
  if fs.length = 2 ∧ fs.has typeField ∧ fs.has contentField then
    let type := fs.get typeField
    let make? := match type with
      | .text name => maker? name
      | _ => none
    if type.key?.isNone then .error (.unhashable type.kind)
    else match make? with
      | some make => (make (fs.get contentField)).map .special
      | none => .error (fault
          ("('Unsupported type', <class 'type'>, " ++ (Value.object fs).inner ++ ")"))
  else .ok (.object fs)

mutual

/-- The data with special values in place of the envelopes. -/
def opened : Value → Except Fault Value
  | .list vs => (openedItems vs).map .list
  | .object fs => (openedFields fs).bind openOne
  | v => .ok v

def openedItems : List Value → Except Fault (List Value)
  | [] => .ok []
  | v :: vs => do
    let w ← opened v
    return w :: (← openedItems vs)

def openedFields : List (String × Value) → Except Fault (List (String × Value))
  | [] => .ok []
  | (k, v) :: fs => do
    let w ← opened v
    return (k, w) :: (← openedFields fs)

end

end Envelope

end Automation
