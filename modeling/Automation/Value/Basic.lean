import Automation.Value.Special

namespace Automation

inductive Value where
  | null
  | bool (b : Bool)
  | int (n : Int)
  | float (x : Binary64)
  | text (s : String)
  | list (items : List Value)
  | object (fields : List (String × Value))
  | special (s : Special)
  deriving Inhabited, Repr

def textOrNull : Option String → Value
  | none => .null
  | some s => .text s

/-- Named values in order, each name once. -/
abbrev Fields := List (String × Value)

inductive Kind where
  | null | bool | int | float | text | list | object
  | decimal | bytes | identifier | instant | day | hour
  deriving DecidableEq, Repr, Inhabited

namespace Kind

def name : Kind → String
  | null => "NoneType"
  | bool => "bool"
  | int => "int"
  | float => "float"
  | text => "str"
  | list => "list"
  | object => "dict"
  | decimal => "Decimal"
  | bytes => "bytes"
  | identifier => "UUID"
  | instant => "datetime"
  | day => "date"
  | hour => "time"

def fullName (k : Kind) : String :=
  match k with
  | decimal => "decimal." ++ k.name
  | instant | day | hour => "datetime." ++ k.name
  | _ => k.name

end Kind

def Special.kind : Special → Kind
  | .decimal _ => .decimal
  | .bytes _ => .bytes
  | .identifier _ => .identifier
  | .instant _ => .instant
  | .day _ => .day
  | .hour _ => .hour

namespace Value

def kind : Value → Kind
  | .null => .null
  | .bool _ => .bool
  | .int _ => .int
  | .float _ => .float
  | .text _ => .text
  | .list _ => .list
  | .object _ => .object
  | .special s => s.kind

/-- Whether a value counts as given: nothing, zero and whatever is empty does not. -/
def truthy : Value → Bool
  | .null => false
  | .bool b => b
  | .int n => n != 0
  | .float x => !x.isZero
  | .text s => s != ""
  | .list xs => !xs.isEmpty
  | .object fs => !fs.isEmpty
  | .special s => s.truthy

def orElse (a b : Value) : Value := if a.truthy then a else b

mutual

def beq : Value → Value → Bool
  | .null, .null => true
  | .bool a, .bool b => a == b
  | .int a, .int b => a == b
  | .float a, .float b => a == b
  | .text a, .text b => a == b
  | .list a, .list b => beqItems a b
  | .object a, .object b => beqFields a b
  | .special a, .special b => a == b
  | _, _ => false

def beqItems : List Value → List Value → Bool
  | [], [] => true
  | a :: as, b :: bs => beq a b && beqItems as bs
  | _, _ => false

def beqFields : List (String × Value) → List (String × Value) → Bool
  | [], [] => true
  | (k, a) :: as, (l, b) :: bs => k == l && beq a b && beqFields as bs
  | _, _ => false

end

mutual

theorem beq_iff_eq : ∀ a b : Value, beq a b = true ↔ a = b
  | .null, b => by cases b <;> simp [beq]
  | .bool _, b => by cases b <;> simp [beq]
  | .int _, b => by cases b <;> simp [beq]
  | .float _, b => by cases b <;> simp [beq]
  | .text _, b => by cases b <;> simp [beq]
  | .list xs, b => by cases b <;> simp [beq, beqItems_iff_eq xs]
  | .object fs, b => by cases b <;> simp [beq, beqFields_iff_eq fs]
  | .special _, b => by cases b <;> simp [beq]

theorem beqItems_iff_eq : ∀ as bs : List Value, beqItems as bs = true ↔ as = bs
  | [], bs => by cases bs <;> simp [beqItems]
  | a :: as, bs => by cases bs <;> simp [beqItems, beq_iff_eq a, beqItems_iff_eq as]

theorem beqFields_iff_eq : ∀ as bs : List (String × Value), beqFields as bs = true ↔ as = bs
  | [], bs => by cases bs <;> simp [beqFields]
  | (k, a) :: as, bs => by
    cases bs with
    | nil => simp [beqFields]
    | cons b bs => simp [beqFields, Prod.ext_iff, beq_iff_eq a, beqFields_iff_eq as, and_assoc]

end

instance : DecidableEq Value := fun a b ↦ decidable_of_iff _ (beq_iff_eq a b)

end Value

namespace Fields

def get (fs : Fields) (name : String) : Value := (fs.lookup name).getD .null

def has (fs : Fields) (name : String) : Bool := (fs.lookup name).isSome

def set (fs : Fields) (name : String) (v : Value) : Fields :=
  match fs with
  | [] => [(name, v)]
  | (k, w) :: rest => if k = name then (k, v) :: rest else (k, w) :: set rest name v

def merge (fs gs : Fields) : Fields := gs.foldl (fun acc p ↦ acc.set p.1 p.2) fs

def without (fs : Fields) (names : List String) : Fields := fs.filter fun p ↦ !names.contains p.1

theorem lookup_set (fs : Fields) (name other : String) (v : Value) :
    (fs.set name v).lookup other = if other = name then some v else fs.lookup other := by
  induction fs with
  | nil => by_cases h : other = name <;> simp [set, List.lookup_cons, h, beq_false_of_ne]
  | cons p fs ih =>
    obtain ⟨k, w⟩ := p
    by_cases hk : k = name
    · subst hk
      by_cases ho : other = k <;> simp [set, List.lookup_cons, ho, beq_false_of_ne]
    · by_cases ho : other = k
      · subst ho
        simp [set, hk]
      · simp [set, List.lookup_cons, hk, beq_false_of_ne ho, ih]

theorem get_set (fs : Fields) (name other : String) (v : Value) :
    (fs.set name v).get other = if other = name then v else fs.get other := by
  by_cases h : other = name <;> simp [get, lookup_set, h]

end Fields

end Automation
