import Automation.Context.Basic
import Automation.Value.Number
import Automation.Workflow.Node

namespace Automation

inductive Change where
  | addTag
  | removeTag
  | setStatus
  | setField
  | setSalesperson
  | openDeal
  | moveDeal
  | setCampaign
  | annotate (note source : String)
  deriving DecidableEq, Repr

namespace Change

def ofType? : String → Option Change
  | "add_tag" => some addTag
  | "remove_tag" => some removeTag
  | "change_status" => some setStatus
  | "update_contact" => some setField
  | "assign_salesperson" => some setSalesperson
  | "create_opportunity" => some openDeal
  | "update_opportunity" => some moveDeal
  | "move_to_campaign" => some setCampaign
  | "add_note" => some (annotate "last_note" "note")
  | "add_task" => some (annotate "last_task" "title")
  | "send_notification" => some (annotate "last_notification_to" "notify_user")
  | "add_to_workflow" => some (annotate "added_to_workflow" "workflow_name")
  | "remove_from_workflow" => some (annotate "removed_from_workflow" "scope")
  | _ => none

/-- Fields of a contact that a configuration may not name. Tags only change one at a time. -/
def guarded (name : Value) : Bool := name == .text "tags"

def writeContact (context : Context) (name : String) (v : Value) : Except Fault Context :=
  context.revise [(.text name, v)] [] []

def failed (cause : Cause) : Fault := .failure (.execution cause .null .null)

/-- What is written into a field of the contact: nothing clears a declared one to its default. -/
def writtenFor (name v : Value) : Value :=
  if v = .null then (Contact.default? name).getD v else v

def writeNamed (cfg : Fields) (context : Context) : Except Fault Context :=
  let name := cfg.get "field"
  if !name.truthy || !cfg.has "field_value" then .ok context
  else if name.key?.isNone then .error (.unhashable name.kind)
  else if guarded name then .error (failed (.protectedField name))
  else context.revise [(name, writtenFor name (cfg.get "field_value"))] [] []

def dealValue (cfg : Fields) : Except Fault Binary64 :=
  let given := (cfg.get "value").orElse (.int 0)
  match given.asNumber with
  | .number x => .ok x
  | .tooLarge => .error .numberTooLarge
  | .unreadable => .error (failed (.opportunityValue given))

def given (cfg : Fields) (name : String) : Fields :=
  if (cfg.get name).truthy then [(name, cfg.get name)] else []

def apply (c : Change) (cfg : Fields) (context : Context) : Except Fault Context :=
  match c with
  | addTag =>
    let tag := cfg.get "tag"
    if !tag.truthy || tag.memberOf context.contact.tags then .ok context
    else writeContact context "tags" (.list (context.contact.tags ++ [tag]))
  | removeTag =>
    let tag := cfg.get "tag"
    writeContact context "tags" (.list (context.contact.tags.filter fun t ↦ !t.equals tag))
  | setStatus => writeContact context "status" (cfg.get "new_status")
  | setField => writeNamed cfg context
  | setSalesperson => writeContact context "assigned_salesperson" (cfg.get "salesperson")
  | openDeal => do
    let value ← dealValue cfg
    context.revise [] [("stage", cfg.get "stage"), ("value", .float value),
      ("pipeline", (cfg.get "pipeline").orElse (.text "")), ("status", .text "active")] []
  | moveDeal => context.revise [] (given cfg "stage" ++ given cfg "status") []
  | setCampaign => writeContact context "campaign_id" (cfg.get "campaign_id")
  | annotate note source => context.revise [] [] [(note, cfg.get source)]

end Change

namespace Node

def locate (n : Node) : Fault → Fault
  | .failure (.execution cause id type) =>
    .failure (.execution cause (id.orElse (textOrNull n.id)) (type.orElse (.text n.type)))
  | f => f

def change (n : Node) (context : Context) : Except Fault Context :=
  match Change.ofType? n.type with
  | some c => (c.apply n.config context).mapError n.locate
  | none => .ok context

def opensDeal (n : Node) : Bool := Change.ofType? n.type == some .openDeal

end Node

end Automation
