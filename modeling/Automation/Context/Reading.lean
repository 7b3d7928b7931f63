import Automation.Context.Basic

namespace Automation.Contact

def purpose : String :=
  "\n    Contact the automation runs for.\n\n" ++
  "    Besides the declared fields, a contact carries free-form fields written by\n" ++
  "    `update_contact`, `assign_salesperson` (assigned_salesperson) and\n" ++
  "    `move_to_campaign` (campaign_id).\n    "

def givenNames (c : Contact) : List String :=
  (c.given.map Value.shown).mergeSort fun a b ↦ decide (a ≤ b)

def extraObject (c : Contact) : Value := .object (c.extra.map fun p ↦ (p.1.shown, p.2))

/-- What a contact tells about itself, whatever it holds under the same name. -/
def self? (c : Contact) : String → Option Value
  | "model_fields_set" | "__pydantic_fields_set__" => some (.list (c.givenNames.map .text))
  | "model_extra" | "__pydantic_extra__" => some c.extraObject
  | "__dict__" => some (.object (Fields.merge c.declaredFields c.aside))
  | "__pydantic_private__" => some .null
  | _ => none

def common? : String → Option Value
  | "model_config" => some (.object [("extra", .text "allow"), ("frozen", .bool true)])
  | "__module__" => some (.text "autoflow.core.context")
  | "__doc__" => some (.text purpose)
  | _ => none

def get? (c : Contact) (name : String) : Option Value :=
  c.self? name <|> c.declaredFields.lookup name <|> c.aside.lookup name <|> common? name <|>
    c.extra.get? (.text name)

def getOr (c : Contact) (name default : Value) : Except Fault Value :=
  match name with
  | .text s => .ok ((c.get? s).getD default)
  | v => .error (.argument ("attribute name must be string, not '" ++ v.kind.name ++ "'"))

def isAside (name : String) : Bool := name.startsWith "_"

def putAside (c : Contact) (name : String) (v : Value) : Contact :=
  { c with aside := Fields.set c.aside name v }

end Automation.Contact
