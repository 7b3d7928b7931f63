import Automation.Value.Number
import Automation.Workflow.Node

namespace Automation

abbrev Rule := Fields → Except Fault (List String)

abbrev Rules := String → Option Rule

namespace Rule

def ifNot (passed : Bool) (message : String) : List String := if passed then [] else [message]

def requires (name message : String) : Rule := fun cfg ↦
  .ok (ifNot (cfg.get name).truthy message)

/-- The number that a value spells. Flags spell none here. -/
def amount : Value → Except Fault (Option Binary64)
  | .bool _ => .ok none
  | v => match v.asNumber with
    | .number x => .ok (some x)
    | .tooLarge => .error .numberTooLarge
    | .unreadable => .ok none

def email : Rule := fun cfg ↦ .ok <|
  if (cfg.get "template_id").truthy then []
  else
    ifNot (cfg.get "subject").truthy "Subject is required for custom emails" ++
      ifNot (cfg.get "body").truthy "Body is required for custom emails"

def wait : Rule := fun cfg ↦
  (amount (cfg.get "wait_days")).map fun days ↦
    ifNot (days.any fun x ↦ !x.lt .one) "Wait duration must be at least 1" ++
      ifNot (cfg.get "wait_unit").truthy "Wait unit is required"

def charge : Rule := fun cfg ↦
  (amount (cfg.get "amount")).map fun x ↦
    ifNot (x.any fun x ↦ !x.le .zero) "Valid charge amount is required"

def conditionField? : String → Option (String × String)
  | "has_tag" => some ("tag", "Tag is required")
  | "opp_value_gt" => some ("opp_value", "Value is required")
  | "contact_status" => some ("contact_status", "Status is required")
  | _ => none

def condition : Rule := fun cfg ↦
  let type := cfg.get "condition_type"
  if type.truthy then
    match type with
    | .text name => match conditionField? name with
      | some (needed, message) => requires needed message cfg
      | none => .ok []
    | .list _ | .object _ => .error (.unhashable type.kind)
    | _ => .ok []
  else .ok ["Condition type is required"]

end Rule

namespace Rules

open Rule

def standard : Rules
  | "send_email" => some email
  | "wait" => some Rule.wait
  | "condition" => some Rule.condition
  | "add_tag" | "remove_tag" => some (requires "tag" "Tag name is required")
  | "assign_salesperson" => some (requires "salesperson" "Salesperson is required")
  | "move_to_campaign" => some (requires "campaign_id" "Campaign is required")
  | "change_status" => some (requires "new_status" "New status is required")
  | "create_opportunity" => some (requires "stage" "Stage is required")
  | "send_sms" => some (requires "body" "SMS message is required")
  | "send_voicemail" => some (requires "script" "Voicemail script is required")
  | "send_dm" => some (requires "body" "Message is required")
  | "add_task" => some (requires "title" "Task title is required")
  | "send_notification" => some (requires "message" "Notification message is required")
  | "custom_webhook" => some (requires "url" "Webhook URL is required")
  | "stripe_charge" => some charge
  | "google_sheets" => some (requires "sheet_id" "Sheet URL or ID is required")
  | _ => none

def put (rules : Rules) (type : String) (rule : Option Rule) : Rules := fun t ↦
  if t = type then rule else rules t

def check (rules : Rules) (n : Node) : Except Fault (List String) :=
  match rules n.type with
  | some rule => rule n.config
  | none => .ok []

end Rules

end Automation
