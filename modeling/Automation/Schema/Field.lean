import Automation.Number.IntegerField
import Automation.Number.Word
import Automation.Schema.Checked
import Automation.Value.Number

namespace Automation.Schema

variable {α : Type}

abbrev Reader (α : Type) := Value → Checked α

namespace Reader

def anything : Reader Value := .good

def text : Reader String
  | .text s => .good s
  | _ => .flawed .notText

def nonEmptyText : Reader String
  | .text s => if s = "" then .flawed .emptyText else .good s
  | _ => .flawed .notText

def object : Reader Fields
  | .object fs => .good fs
  | _ => .flawed .notObject

def number : Reader Binary64
  | .bool b => .good (if b then .one else .zero)
  | .int n => match Binary64.ofInt? n with
    | some x => .good x
    | none => .flawed .notNumber
  | .float x => .good x
  | .text s => match Binary64.ofField? s with
    | some x => .good x
    | none => .flawed .unreadableNumber
  | _ => .flawed .notNumber

def wholeNumber (x : Binary64) : Checked Int :=
  match x.toInt? with
  | some n => if n.natAbs < wordBound then .good n else .flawed .longInteger
  | none => .flawed (if x.isFinite then .fractional else .notFinite)

def integer : Reader Int
  | .bool b => .good (if b then 1 else 0)
  | .int n => .good n
  | .float x => wholeNumber x
  | .text s => match integerOfField s with
    | .integer n => .good n
    | .tooLong => .flawed .longInteger
    | .unreadable => .flawed .unreadableInteger
  | _ => .flawed .notInteger

def integerFrom (least : Int) : Reader Int := fun v ↦
  match integer v with
  | .good n => if n < least then .flawed (.below least) else .good n
  | .bad ps => .bad ps

def flagWord? (s : String) : Option Bool :=
  let w := String.ofList (s.toList.map Char.toLower)
  if ["1", "t", "true", "y", "yes", "on"].contains w then some true
  else if ["0", "f", "false", "n", "no", "off"].contains w then some false
  else none

/-- One and zero as flags. An integer that does not fit into a machine word is nothing like one. -/
def flagNumber (n : Int) : Checked Bool :=
  if n = 1 then .good true
  else if n = 0 then .good false
  else if isWord n then .flawed .unreadableFlag
  else .flawed .notFlag

def flag : Reader Bool
  | .bool b => .good b
  | .int n => flagNumber n
  | .float x => match wholeNumber x with
    | .good n => flagNumber n
    | .bad _ => .flawed .notFlag
  | .text s => match flagWord? s with
    | some b => .good b
    | none => .flawed .unreadableFlag
  | _ => .flawed .notFlag

def optional (r : Reader α) : Reader (Option α)
  | .null => .good none
  | v => some <$> r v

def choice (choices : List (String × α)) : Reader α := fun v ↦
  let found := match v with
    | .text s => choices.lookup s
    | _ => none
  match found with
  | some a => .good a
  | none => .flawed (.notAmong (choices.map (·.1)))

def items (r : Reader α) (index : Nat) : List Value → Checked (List α)
  | [] => .good []
  | v :: vs => List.cons <$> (r v).within (.item index) <*> items r (index + 1) vs

def list (r : Reader α) : Reader (List α)
  | .list vs => items r 0 vs
  | _ => .flawed .notList

def record (model : String) (r : Fields → Checked α) : Reader α
  | .object fs => r fs
  | _ => .flawed (.notRecord model)

end Reader

def required (name : String) (r : Reader α) (fs : Fields) : Checked α :=
  (match fs.lookup name with
    | some v => r v
    | none => .flawed .missing).within (.field name)

def field (name : String) (default : α) (r : Reader α) (fs : Fields) : Checked α :=
  match fs.lookup name with
  | some v => (r v).within (.field name)
  | none => .good default

end Automation.Schema
