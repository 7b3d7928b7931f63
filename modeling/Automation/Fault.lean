import Automation.Failure

namespace Automation

inductive Foreign where
  | runtime | value | key
  deriving DecidableEq, Repr

inductive Fault where
  | failure (f : Failure)
  | schema (r : Schema.Report)
  | unhashable (kind : Kind)
  | notIterable (kind : Kind)
  | uncountable (kind : Kind)
  | memberless (kind : Kind) (member : String)
  | notMapping (maker : String) (kind : Kind)
  | unnameable (kind : Kind)
  | numberTooLarge
  | missingKey (name : String)
  | argument (message : String)
  | unknownLevel (name : String)
  | answer (message : String)
  | foreign (origin : Foreign) (text : String)
  deriving DecidableEq, Repr

namespace Fault

def message : Fault → String
  | .failure f => f.message
  | .schema r => r.message
  | .unhashable kind => "unhashable type: '" ++ kind.name ++ "'"
  | .notIterable kind => "'" ++ kind.fullName ++ "' object is not iterable"
  | .uncountable kind => "object of type '" ++ kind.fullName ++ "' has no len()"
  | .memberless kind member =>
    "'" ++ kind.fullName ++ "' object has no attribute '" ++ member ++ "'"
  | .notMapping maker kind =>
    maker ++ "() argument after ** must be a mapping, not " ++ kind.fullName
  | .unnameable kind => "'" ++ kind.name ++ "' object is not an instance of 'str'"
  | .numberTooLarge => "int too large to convert to float"
  | .missingKey name => Text.quoted name
  | .argument m | .answer m => m
  | .unknownLevel name => "Unknown level: " ++ Text.quoted name
  | .foreign .key text => Text.quoted text
  | .foreign _ text => text

/-- Whether the library raised the fault on purpose. -/
def isFailure : Fault → Bool
  | .failure _ => true
  | _ => false

end Fault

namespace Value

/-- What a loop over a value goes through: items, characters or field names. -/
def elements : Value → Except Fault (List Value)
  | .list xs => .ok xs
  | .text s => .ok (s.toList.map fun c ↦ .text (String.singleton c))
  | .object fs => .ok (fs.map fun p ↦ .text p.1)
  | .special (.bytes bs) => .ok (bs.map fun b ↦ .int b.toNat)
  | v => .error (.notIterable v.kind)

def elementsIfGiven (v : Value) : Except Fault (List Value) :=
  if v.truthy then v.elements else .ok []

def countIfGiven (v : Value) : Except Fault Nat :=
  if v.truthy then
    match v with
    | .list xs => .ok xs.length
    | .text s => .ok s.length
    | .object fs => .ok fs.length
    | .special (.bytes bs) => .ok bs.length
    | w => .error (.uncountable w.kind)
  else .ok 0

theorem elementsIfGiven_list (vs : List Value) : (Value.list vs).elementsIfGiven = .ok vs := by
  cases vs <;> rfl

theorem countIfGiven_list (vs : List Value) : (Value.list vs).countIfGiven = .ok vs.length := by
  cases vs <;> rfl

end Value

end Automation
