import Automation.Log.Pattern
import Automation.Number.Significant
import Automation.Number.Word
import Automation.Value.Basic

namespace Automation.Log

inductive Mismatch where
  | tooFew
  | tooMany
  | notNamed
  | unknownName (name : String)
  | openKey
  | incomplete
  | measure
  | widthOverflow
  | placesOverflow
  | wideWidth
  | widePlaces
  | tooManyPlaces
  | tooLong
  | listIndex
  | unsupported (c : Char) (index : Nat)
  | notReal (c : Char) (kind : Kind)
  | notInteger (c : Char) (kind : Kind)
  | notNumber (kind : Kind)
  | numberTooLarge
  | unbounded
  | undefined
  | notCharacter
  | noSuchCharacter
  deriving DecidableEq, Repr

namespace Mismatch

def shownChar (c : Char) : Char := if 31 ≤ c.toNat ∧ c.toNat ≤ 126 then c else '?'

def message : Mismatch → String
  | .tooFew => "not enough arguments for format string"
  | .tooMany => "not all arguments converted during string formatting"
  | .notNamed => "format requires a mapping"
  | .unknownName name => Text.quoted name
  | .openKey => "incomplete format key"
  | .incomplete => "incomplete format"
  | .measure => "* wants int"
  | .widthOverflow => "Python int too large to convert to C ssize_t"
  | .placesOverflow => "Python int too large to convert to C int"
  | .wideWidth => "width too big"
  | .widePlaces => "precision too big"
  | .tooManyPlaces => "precision too large"
  | .tooLong => ""
  | .listIndex => "list indices must be integers or slices, not str"
  | .unsupported c index =>
    "unsupported format character '" ++ String.singleton (shownChar c) ++ "' (0x" ++
      .ofList (Text.hexDigits 1 c.toNat) ++ ") at index " ++ intText index
  | .notReal c kind =>
    "%" ++ String.singleton c ++ " format: a real number is required, not " ++ kind.name
  | .notInteger c kind =>
    "%" ++ String.singleton c ++ " format: an integer is required, not " ++ kind.name
  | .notNumber kind => "must be real number, not " ++ kind.name
  | .numberTooLarge => "int too large to convert to float"
  | .unbounded => "cannot convert float infinity to integer"
  | .undefined => "cannot convert float NaN to integer"
  | .notCharacter => "%c requires int or char"
  | .noSuchCharacter => "%c arg not in range(0x110000)"

end Mismatch

namespace Message

structure Laid where
  numeric : Bool := false
  front : List Char := []
  body : List Char

def sign (f : Flags) (negative : Bool) : List Char :=
  if negative then ['-'] else if f.plus then ['+'] else if f.blank then [' '] else []

def fillUp (f : Flags) (left : Bool) (width : Nat) (l : Laid) : List Char :=
  let missing := width - (l.front.length + l.body.length)
  if left then l.front ++ l.body ++ List.replicate missing ' '
  else if f.zeros && l.numeric then l.front ++ List.replicate missing '0' ++ l.body
  else List.replicate missing ' ' ++ l.front ++ l.body

def layText (places : Option Nat) (cs : List Char) : Laid :=
  { body := match places with
      | some n => cs.take n
      | none => cs }

def mostPlaces : Nat := Nat.pow 2 31 - 4

def layInteger (f : Flags) (places : Option Nat) (base : Nat) (mark : List Char) (n : Int) :
    Except Mismatch Laid :=
  if mostPlaces < places.getD 0 then .error .tooManyPlaces
  else .ok {
    numeric := true
    front := sign f (n < 0) ++ if f.alternate then mark else []
    body := padZeros (places.getD 0) (Nat.toDigits base n.natAbs) }

def toUpper (cs : List Char) : List Char := cs.map Char.toUpper

def layNumber (f : Flags) (places : Option Nat) (letter : Char) (x : Binary64) : Laid :=
  let n := places.getD 6
  match x with
  | .nan => { numeric := true, front := sign f false, body := "nan".toList }
  | .infinite s => { numeric := true, front := sign f s, body := "inf".toList }
  | .finite s m e =>
    let body :=
      if letter = 'f' then Binary64.fixedDigits m e n
      else if letter = 'e' then Binary64.scientificDigits m e n
      else Binary64.generalDigits m e n f.alternate
    let pointed := if f.alternate && !body.contains '.' then
        body.takeWhile Char.isDigit ++ '.' :: body.dropWhile Char.isDigit
      else body
    { numeric := true, front := sign f s, body := pointed }

def wholePart (x : Binary64) : Except Mismatch Int :=
  match x with
  | .nan => .error .undefined
  | .infinite _ => .error .unbounded
  | x => .ok ((x.quanta?.getD 0).tdiv Binary64.scale)

def real (c : Char) : Value → Except Mismatch Int
  | .int n => .ok n
  | .bool b => .ok (if b then 1 else 0)
  | .float x => wholePart x
  | v => .error (.notReal c v.kind)

def integer (c : Char) : Value → Except Mismatch Int
  | .int n => .ok n
  | .bool b => .ok (if b then 1 else 0)
  | v => .error (.notInteger c v.kind)

def number : Value → Except Mismatch Binary64
  | .float x => .ok x
  | .bool b => .ok (if b then .one else .zero)
  | .int n => match Binary64.ofInt? n with
    | some x => .ok x
    | none => .error .numberTooLarge
  | v => .error (.notNumber v.kind)

def codePoint (n : Int) : Except Mismatch Char :=
  if 0 ≤ n ∧ n < 0x110000 then .ok (.ofNat n.toNat) else .error .noSuchCharacter

def character : Value → Except Mismatch Char
  | .text s => match s.toList with
    | [c] => .ok c
    | _ => .error .notCharacter
  | .int n => codePoint n
  | .bool b => codePoint (if b then 1 else 0)
  | _ => .error .notCharacter

def asciiOnly (s : String) : List Char :=
  s.toList.flatMap fun c ↦
    let n := c.toNat
    if n < 0x80 then [c]
    else if n < 0x100 then '\\' :: 'x' :: Text.hexDigits 2 n
    else if n < 0x10000 then '\\' :: 'u' :: Text.hexDigits 4 n
    else '\\' :: 'U' :: Text.hexDigits 8 n

def lay (f : Flags) (places : Option Nat) (c : Char) (index : Nat) (v : Value) :
    Except Mismatch Laid :=
  let capital (l : Laid) : Laid := { l with front := toUpper l.front, body := toUpper l.body }
  match c with
  | 's' => .ok (layText places v.shown.toList)
  | 'r' => .ok (layText places v.inner.toList)
  | 'a' => .ok (layText places (asciiOnly v.inner))
  | 'd' | 'i' | 'u' => (real c v).bind (layInteger f places 10 [])
  | 'o' => (integer c v).bind (layInteger f places 8 ['0', 'o'])
  | 'x' => (integer c v).bind (layInteger f places 16 ['0', 'x'])
  | 'X' => ((integer c v).bind (layInteger f places 16 ['0', 'x'])).map capital
  | 'e' | 'f' | 'g' => (number v).map (layNumber f places c)
  | 'E' | 'F' | 'G' => (number v).map fun x ↦ capital (layNumber f places c.toLower x)
  | 'c' => (character v).map fun c ↦ { body := [c] }
  | _ => .error (.unsupported c index)

def next : List Value → Except Mismatch (Value × List Value)
  | [] => .error .tooFew
  | v :: vs => .ok (v, vs)

/-- The range of a length, and what is amiss with one that is not in it: as an argument, or in the
pattern itself. -/
structure Range where
  bits : Nat
  overflow : Mismatch
  wide : Mismatch

def widthRange : Range := ⟨63, .widthOverflow, .wideWidth⟩

def placesRange : Range := ⟨31, .placesOverflow, .widePlaces⟩

def measure (r : Range) (left : List Value) : Measure → Except Mismatch (Option Int × List Value)
  | .absent => .ok (none, left)
  | .fixed n => if n < Nat.pow 2 r.bits then .ok (some n, left) else .error r.wide
  | .argument => do
    let (v, left) ← next left
    match v with
    | .int n =>
      if -(Nat.pow 2 r.bits : Int) ≤ n ∧ n < Nat.pow 2 r.bits then .ok (some n, left)
      else .error r.overflow
    | .bool b => .ok (some (if b then 1 else 0), left)
    | _ => .error .measure

inductive Naming where
  | fields (fs : Fields)
  | items

def named (naming : Option Naming) (key : String) : Except Mismatch Value :=
  match naming with
  | none => .error .notNamed
  | some .items => .error .listIndex
  | some (.fields fs) => match fs.lookup key with
    | some v => .ok v
    | none => .error (.unknownName key)

def leastWidth : Int := -(wordBound : Int)

def room : Nat := Nat.pow 2 36

def carryOut (naming : Option Naming) (d : Directive) (left : List Value) :
    Except Mismatch (List Char × List Value) := do
  let left ← match d.key with
    | none => .ok left
    | some key => (named naming key).map ([·])
  let (width, left) ← measure widthRange left d.width
  let (places, left) ← measure placesRange left d.places
  match d.conversion with
  | none => .error .incomplete
  | some (c, index) => do
    let (v, left) ← next left
    let laid ← lay d.flags (places.map Int.toNat) c index v
    let width := (width.filter (· ≠ leastWidth)).getD 0
    if room ≤ width.natAbs then .error .tooLong
    else .ok (fillUp d.flags (d.flags.left || width < 0) width.natAbs laid, left)

def fillPieces (naming : Option Naming) : List Value → List Piece → Except Mismatch (List Char)
  | left, [] => if naming.isNone && !left.isEmpty then .error .tooMany else .ok []
  | left, .plain c :: pieces => (fillPieces naming left pieces).map (c :: ·)
  | _, .openKey :: _ => .error (if naming.isNone then .notNamed else .openKey)
  | left, .directive d :: pieces => do
    let (cs, left) ← carryOut naming d left
    if naming.isSome && !left.isEmpty then .error .tooMany
    else return cs ++ (← fillPieces naming left pieces)

inductive Arguments where
  | row (vs : List Value)
  | single (v : Value)
  deriving DecidableEq, Repr

/-- Arguments in a row, where a single object that is not empty is taken as it is. -/
def Arguments.ofList : List Value → Arguments
  | [.object (f :: fs)] => .single (.object (f :: fs))
  | vs => .row vs

def fill (message : Value) (args : Arguments) : Except Mismatch String :=
  let pieces := Pattern.read message.shown
  let filled (naming : Option Naming) (vs : List Value) : Except Mismatch String :=
    (fillPieces naming vs pieces).map String.ofList
  match args with
  | .row [] => .ok message.shown
  | .row vs => filled none vs
  | .single v =>
    if !v.truthy then .ok message.shown
    else match v with
      | .object fs => filled (some (.fields fs)) [v]
      | .list _ => filled (some .items) [v]
      | _ => filled none [v]

end Message

end Automation.Log
