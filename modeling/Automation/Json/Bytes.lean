import Automation.Json.Reader

namespace Automation.Json

/-- How characters are encoded: in units of one, two or four bytes, the greatest byte first or last.
-/
inductive Encoding where
  | single
  | double (greatestFirst : Bool)
  | quadruple (greatestFirst : Bool)
  deriving DecidableEq, Repr

namespace Encoding

def ofBytes : List UInt8 → Encoding
  | [a, b] => if a = 0 then .double true else if b = 0 then .double false else .single
  | a :: b :: c :: d :: _ =>
    if a = 0 then (if b = 0 then .quadruple true else .double true)
    else if b = 0 then (if c = 0 ∧ d = 0 then .quadruple false else .double false)
    else .single
  | _ => .single

def pairs? (greatestFirst : Bool) : List UInt8 → Option (List Nat)
  | [] => some []
  | [_] => none
  | a :: b :: rest =>
    let unit := if greatestFirst then a.toNat * 256 + b.toNat else b.toNat * 256 + a.toNat
    (pairs? greatestFirst rest).map (unit :: ·)

def joined? (greatestFirst : Bool) : List Nat → Option (List Nat)
  | [] => some []
  | [_] => none
  | a :: b :: rest =>
    let unit := if greatestFirst then a * 65536 + b else b * 65536 + a
    (joined? greatestFirst rest).map (unit :: ·)

def isHigh (n : Nat) : Bool := 0xD800 ≤ n && n ≤ 0xDBFF

def isLow (n : Nat) : Bool := 0xDC00 ≤ n && n ≤ 0xDFFF

def character? (n : Nat) : Option Char :=
  if 0x10FFFF < n then none
  else if isHigh n || isLow n then some '\uFFFD'
  else some (.ofNat n)

def paired : List Nat → List Char
  | [] => []
  | [a] => (character? a).toList
  | a :: b :: rest =>
    if isHigh a && isLow b then
      .ofNat (0x10000 + (a - 0xD800) * 0x400 + (b - 0xDC00)) :: paired rest
    else (character? a).toList ++ paired (b :: rest)

def decode? (bytes : List UInt8) : Encoding → Option (List Char)
  | .single => (String.fromUTF8? ⟨bytes.toArray⟩).map fun s ↦ match s.toList with
    | '\uFEFF' :: cs => cs
    | cs => cs
  | .double first => (pairs? first bytes).map paired
  | .quadruple first => do
    let units ← pairs? first bytes
    (← joined? first units).mapM character?

end Encoding

def charsOfBytes? (bytes : List UInt8) : Option (List Char) :=
  (Encoding.ofBytes bytes).decode? bytes

end Automation.Json
