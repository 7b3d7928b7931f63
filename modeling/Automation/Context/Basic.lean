import Automation.Context.Contact

namespace Automation

open Schema

structure Opportunity where
  id : Value := .text ""
  stage : Value := .text ""
  value : Value := .float .zero
  status : Value := .text ""
  pipeline : Value := .text ""
  extra : Fields := []
  deriving DecidableEq, Repr

namespace Opportunity

def declared : List String := ["id", "stage", "value", "status", "pipeline"]

def declaredFields (o : Opportunity) : Fields :=
  [("id", o.id), ("stage", o.stage), ("value", o.value), ("status", o.status),
    ("pipeline", o.pipeline)]

def put (o : Opportunity) (name : String) (v : Value) : Opportunity :=
  match name with
  | "id" => { o with id := v }
  | "stage" => { o with stage := v }
  | "value" => { o with value := v }
  | "status" => { o with status := v }
  | "pipeline" => { o with pipeline := v }
  | _ => { o with extra := o.extra.set name v }

def update (o : Opportunity) (changes : Fields) : Opportunity :=
  changes.foldl (fun o p ↦ o.put p.1 p.2) o

def same (o p : Opportunity) : Bool :=
  Value.same (.object o.declaredFields) (.object p.declaredFields) &&
    Value.same (.object o.extra) (.object p.extra)

def read (fs : Fields) : Checked Opportunity :=
  mk <$> Contact.textField "id" fs
    <*> Contact.textField "stage" fs
    <*> (Value.float <$> field "value" .zero .number fs)
    <*> Contact.textField "status" fs
    <*> Contact.textField "pipeline" fs
    <*> pure (fs.without declared)

end Opportunity

structure Context where
  triggerType : String := "unknown"
  triggeredAt : String := ""
  contact : Contact := {}
  opportunity : Opportunity := {}
  notes : Fields := []
  deriving DecidableEq, Repr

namespace Value

mutual

/-- The value with nothing in place of each number that is not finite, and with texts for special
values that have one. -/
def finite : Value → Value
  | .float x => if x.isFinite then .float x else .null
  | .list xs => .list (finiteItems xs)
  | .object fs => .object (finiteFields fs)
  | .special s => (s.json?.map .text).getD (.special s)
  | v => v

def finiteItems : List Value → List Value
  | [] => []
  | x :: xs => finite x :: finiteItems xs

def finiteFields : List (String × Value) → List (String × Value)
  | [] => []
  | (k, v) :: fs => (k, finite v) :: finiteFields fs

end

end Value

def Named.record : Named → Except Fault Fields
  | [] => .ok []
  | (k, v) :: rest => match k with
    | .text s => (record rest).map ((s, v.finite) :: ·)
    | k => .error (.unnameable k.kind)

def Contact.record (c : Contact) : Except Fault Value :=
  c.extra.record.map fun extra ↦ .object (Value.finiteFields c.declaredFields ++ extra)

/-- A deal's value is written as a floating-point number where it is a number, infinite or not. -/
def Opportunity.recordValue : Value → Except Fault Value
  | .float x => .ok (.float x)
  | .bool b => .ok (.float (if b then .one else .zero))
  | .int n => match Binary64.ofInt? n with
    | some x => .ok (.float x)
    | none => .error .numberTooLarge
  | v => .ok v.finite

def Opportunity.record (o : Opportunity) : Except Fault Value :=
  (recordValue o.value).map fun v ↦
    .object (Fields.set (Value.finiteFields o.declaredFields) "value" v ++
      Value.finiteFields o.extra)

namespace Context

def revise (c : Context) (contact : Named) (opportunity notes : Fields) : Except Fault Context :=
  (c.contact.update contact).map fun contact ↦
    { c with
      contact
      opportunity := c.opportunity.update opportunity
      notes := c.notes.merge notes }

def sectionChanges : Value → Except Fault Fields
  | .object fs => .ok fs
  | v => if v.truthy then .error (.memberless v.kind "items") else .ok []

def contactChanges (v : Value) : Except Fault Fields :=
  match v with
  | .list vs =>
    if vs.contains (.text "tags") then
      .error (.argument "list indices must be integers or slices, not str")
    else sectionChanges v
  | .text s =>
    if 1 < (s.splitOn "tags").length then
      .error (.argument "string indices must be integers, not 'str'")
    else sectionChanges v
  | .object _ | .null => sectionChanges v
  | _ =>
    if v.truthy then .error (.argument ("argument of type '" ++ v.kind.name ++ "' is not iterable"))
    else .ok []

def noteChanges : Value → Except Fault Fields
  | .object fs => .ok fs
  | v =>
    if v.truthy then .error (.argument ("'" ++ v.kind.name ++ "' object is not a mapping"))
    else .ok []

def reviseFrom (c : Context) (contact opportunity notes : Value) : Except Fault Context := do
  let written ← c.revise ((← contactChanges contact).map fun p ↦ (.text p.1, p.2)) [] []
  let written ← written.revise [] (← sectionChanges opportunity) []
  written.revise [] [] (← noteChanges notes)

def refusal (model field : String) : Fault := .schema ⟨model, [⟨[.field field], .frozen⟩]⟩

def same (c d : Context) : Bool :=
  c.triggerType == d.triggerType && c.triggeredAt == d.triggeredAt && c.contact.same d.contact &&
    c.opportunity.same d.opportunity && Value.same (.object c.notes) (.object d.notes)

def read (fs : Fields) : Checked Context :=
  mk <$> field "trigger_type" "unknown" .text fs
    <*> field "triggered_at" "" .text fs
    <*> field "contact" {} (.record "Contact" Contact.read) fs
    <*> field "opportunity" {} (.record "Opportunity" Opportunity.read) fs
    <*> field "meta" [] .object fs

def record (c : Context) : Except Fault Value := do
  let contact ← c.contact.record
  let opportunity ← c.opportunity.record
  return .object [("trigger_type", .text c.triggerType), ("triggered_at", .text c.triggeredAt),
    ("contact", contact), ("opportunity", opportunity),
    ("meta", .object (Value.finiteFields c.notes))]

end Context

end Automation
