import Automation.Fault
import Automation.Value.Identity

namespace Automation.Identifier

def fault (message : String) : Fault := .foreign .value message

def operandFault (operation : String) (v : Value) (isLeft : Bool) : Fault :=
  let pair :=
    if isLeft then (v.kind.fullName, Kind.int.fullName)
    else (Kind.int.fullName, v.kind.fullName)
  .argument ("unsupported operand type(s) for " ++ operation ++ ": '" ++ pair.1 ++ "' and '" ++
    pair.2 ++ "'")

def isBetween (low high : Int) (v : Value) : Except Fault Bool :=
  let ofMagnitude : Magnitude → Bool
    | .exact q => low * Binary64.scale ≤ q && q < high * Binary64.scale
    | .other negative _ exponent => !negative && exponent < 0
    | .unbounded _ | .undefined => false
  match v with
  | .int n => .ok (low ≤ n && n < high)
  | .bool b => .ok (low ≤ b.toInt && b.toInt < high)
  | .float x => .ok (ofMagnitude x.magnitude)
  | .special (.decimal d) =>
    if d.magnitude = .undefined then .error (fault "[<class 'decimal.InvalidOperation'>]")
    else .ok (ofMagnitude d.magnitude)
  | v => .error (.argument ("'<=' not supported between instances of 'int' and '" ++
      v.kind.fullName ++ "'"))

def natural? : Value → Option Nat
  | .int n => some n.toNat
  | .bool b => some b.toNat
  | _ => none

def isGrouped (afterDigit : Bool) : List Char → Bool
  | [] => afterDigit
  | c :: cs => if c = '_' then afterDigit && isGrouped false cs else isGrouped true cs

def readHex? (s : String) : Option Nat := do
  let cs := (Text.trimBy Text.isWhiteSpace s.toList).map Text.toPlainDigit
  let cs := if cs.head? = some '+' then cs.drop 1 else cs
  let isMarked := cs.head? = some '0' ∧ (cs[1]? = some 'x' ∨ cs[1]? = some 'X')
  let cs := if isMarked then cs.drop 2 else cs
  let cs := if isMarked ∧ cs.head? = some '_' then cs.drop 1 else cs
  if cs = [] ∨ !isGrouped false cs then none
  else
    let ds ← (cs.filter (· ≠ '_')).mapM Text.hexDigit?
    return ds.foldl (fun n d ↦ 16 * n + d) 0

def without (s part : String) : String := String.join (s.splitOn part)

def ofDigits (s : String) : Except Fault Nat :=
  let isBrace (c : Char) : Bool := c == '\x7b' || c == '\x7d'
  let digits := (Text.trimBy isBrace (without (without s "urn:") "uuid:").toList).filter (· ≠ '-')
  if digits.length = 32 then
    match readHex? (.ofList digits) with
    | some n => .ok n
    | none => .error (fault ("invalid literal for int() with base 16: " ++
        Text.quoted (.ofList digits)))
  else .error (fault "badly formed hexadecimal UUID string")

def ofHex : Value → Except Fault Nat
  | .text s => ofDigits s
  | .special (.bytes _) => .error (.argument "a bytes-like object is required, not 'str'")
  | .special (.instant _) | .special (.day _) | .special (.hour _) =>
    .error (.argument "'str' object cannot be interpreted as an integer")
  | v => .error (.memberless v.kind "replace")

def bound : Nat := Nat.pow 2 128

def ofNumber (v : Value) : Except Fault Nat := do
  if ← isBetween 0 bound v then
    match natural? v with
    | some n => return n
    | none => .error (operandFault "&" v true)
  else .error (fault "int is out of range (need a 128-bit value)")

def count : Value → Except Fault Nat
  | .list vs => .ok vs.length
  | .text s => .ok s.length
  | .object fs => .ok fs.length
  | .special (.bytes bs) => .ok bs.length
  | v => .error (.uncountable v.kind)

/-- Sixteen things, the first eight of which are in the order of three numbers with the last byte of
each one first. -/
def reordered {α : Type} (xs : List α) : List α :=
  (xs.take 4).reverse ++ ((xs.drop 4).take 2).reverse ++ ((xs.drop 6).take 2).reverse ++ xs.drop 8

def ofBytes (v : Value) : Except Fault Nat := do
  if (← count v) ≠ 16 then .error (fault "bytes is not a 16-char string")
  else match v with
    | .special (.bytes bs) => return bs.foldl (fun n b ↦ 256 * n + b.toNat) 0
    | v => .error (.argument v.inner)

def ofReorderedBytes (v : Value) : Except Fault Nat := do
  if (← count v) ≠ 16 then .error (fault "bytes_le is not a 16-char string")
  else match v with
    | .special (.bytes bs) => ofBytes (.special (.bytes (reordered bs)))
    | .list vs => ofBytes (.list (reordered vs))
    | .text s => ofBytes (.text (.ofList (reordered s.toList)))
    | _ => .error (.argument "unhashable type: 'slice'")

def widths : List Nat := [32, 16, 16, 8, 8, 48]

def checkFields (position : Nat) : List (Nat × Value) → Except Fault Unit
  | [] => .ok ()
  | (width, v) :: rest => do
    if ← isBetween 0 (Nat.pow 2 width) v then checkFields (position + 1) rest
    else .error (fault ("field " ++ intText position ++ " out of range (need " ++
      (if width = 8 then "an " else "a ") ++ intText width ++ "-bit value)"))

/-- The first of six numbers that cannot be put into an identifier, in the order in which they are:
the fourth and the fifth one are put together first. -/
def fieldFault? (vs : List Value) : Option Fault :=
  let isBad (i : Nat) : Bool := vs[i]?.any fun v ↦ (natural? v).isNone
  let isShifted (i : Nat) : Bool := i != 4 && i != 5
  ([3, 4, 0, 1, 2, 5].find? isBad).bind fun i ↦ vs[i]?.map fun v ↦
    if isShifted i then operandFault "<<" v true else operandFault "|" v false

def ofFields (v : Value) : Except Fault Nat := do
  if (← count v) ≠ 6 then .error (fault "fields is not a 6-tuple")
  else
    let vs ← v.elements
    checkFields 1 (widths.zip vs)
    match fieldFault? vs with
    | some f => .error f
    | none =>
      let put (n : Nat) (field : Nat × Value) : Nat :=
        Nat.pow 2 field.1 * n + (natural? field.2).getD 0
      return (widths.zip vs).foldl put 0

def setBits (n start width bits : Nat) : Nat :=
  (n / Nat.pow 2 (start + width) * Nat.pow 2 width + bits) * Nat.pow 2 start + n % Nat.pow 2 start

def stamped (n : Nat) (version : Value) : Except Fault Nat := do
  if ← isBetween 1 6 version then
    match natural? version with
    | some v => return setBits (setBits n 62 2 2) 76 4 v
    | none => .error (operandFault "<<" version true)
  else .error (fault "illegal version number")

def makers : List (String × (Value → Except Fault Nat)) :=
  [("hex", ofHex), ("bytes_le", ofReorderedBytes), ("bytes", ofBytes), ("fields", ofFields),
    ("int", ofNumber)]

def notes : List String := ["version", "is_safe"]

def ofParts (fs : Fields) : Except Fault Nat := do
  match fs.find? fun p ↦ (makers.lookup p.1).isNone && !notes.contains p.1 with
  | some (name, _) => .error (.argument
      ("UUID.__init__() got an unexpected keyword argument " ++ Text.quoted name))
  | none => pure ()
  match makers.filter fun m ↦ fs.get m.1 != .null with
  | [(name, make)] =>
    let n ← make (fs.get name)
    match fs.get "version" with
    | .null => return n
    | version => stamped n version
  | _ =>
    .error (.argument "one of the hex, bytes, bytes_le, fields, or int arguments must be given")

def ofValue : Value → Except Fault Nat
  | .object fs => ofParts fs
  | v => .error (.notMapping "uuid.UUID" v.kind)

end Automation.Identifier
