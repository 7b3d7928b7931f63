import Automation.Context.Tags
import Automation.Schema.Field

namespace Automation

open Schema

/-- A field's name is a text, or any other value that a configuration gave as one. -/
abbrev Named := List (Value × Value)

namespace Named

def get? (fs : Named) (name : Value) : Option Value :=
  (fs.find? fun p ↦ p.1.same name).map (·.2)

def set (fs : Named) (name v : Value) : Named :=
  match fs with
  | [] => [(name, v)]
  | (k, w) :: rest => if k.same name then (k, v) :: rest else (k, w) :: set rest name v

/-- Whether two groups of fields have the same names with the same values, in any order. -/
def same (fs gs : Named) : Bool :=
  fs.length == gs.length && fs.all fun p ↦ (get? gs p.1).any p.2.same

end Named

/-- What is written into a contact is kept as it is, whatever its kind; only tags stay distinct.
Values put aside are no part of a contact, but are read like its fields. -/
structure Contact where
  id : Value := .text ""
  email : Value := .text ""
  firstName : Value := .text ""
  lastName : Value := .text ""
  company : Value := .text ""
  phone : Value := .text ""
  tags : List Value := []
  status : Value := .text ""
  contactType : Value := .text ""
  extra : Named := []
  given : List Value := []
  aside : Fields := []
  deriving DecidableEq, Repr

namespace Contact

def declared : List String :=
  ["id", "email", "first_name", "last_name", "company", "phone", "tags", "status", "contact_type"]

def declaredFields (c : Contact) : Fields :=
  [("id", c.id), ("email", c.email), ("first_name", c.firstName), ("last_name", c.lastName),
    ("company", c.company), ("phone", c.phone), ("tags", .list c.tags), ("status", c.status),
    ("contact_type", c.contactType)]

def put (c : Contact) (name v : Value) : Contact :=
  match name with
  | .text "id" => { c with id := v }
  | .text "email" => { c with email := v }
  | .text "first_name" => { c with firstName := v }
  | .text "last_name" => { c with lastName := v }
  | .text "company" => { c with company := v }
  | .text "phone" => { c with phone := v }
  | .text "status" => { c with status := v }
  | .text "contact_type" => { c with contactType := v }
  | .text "tags" => c
  | _ => { c with extra := c.extra.set name v }

def write (c : Contact) (name v : Value) : Except Fault Contact :=
  if name = .text "tags" then
    (v.elements.bind Tags.distinct).map fun ts ↦ { c with tags := ts }
  else .ok (c.put name v)

def give (c : Contact) (name : Value) : Contact :=
  if name.memberOf c.given then c else { c with given := c.given ++ [name] }

def update (c : Contact) (changes : Named) : Except Fault Contact :=
  changes.foldlM (fun c p ↦ (c.write p.1 p.2).map (·.give p.1)) c

def default? (name : Value) : Option Value :=
  match name with
  | .text s => (declaredFields {}).lookup s
  | _ => none

def same (c d : Contact) : Bool :=
  Value.same (.object c.declaredFields) (.object d.declaredFields) && Named.same c.extra d.extra

def textField (name : String) (fs : Fields) : Checked Value :=
  Value.text <$> field name "" .text fs

def read (fs : Fields) : Checked Contact :=
  mk <$> textField "id" fs
    <*> textField "email" fs
    <*> textField "first_name" fs
    <*> textField "last_name" fs
    <*> textField "company" fs
    <*> textField "phone" fs
    <*> (Tags.ofTexts <$> field "tags" [] (.list .text) fs)
    <*> textField "status" fs
    <*> textField "contact_type" fs
    <*> pure ((fs.without declared).map fun p ↦ (.text p.1, p.2))
    <*> pure (fs.map fun p ↦ .text p.1)
    <*> pure []

end Contact

end Automation
