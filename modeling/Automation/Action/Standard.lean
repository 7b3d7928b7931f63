import Automation.Action.Basic
import Automation.Condition
import Automation.Template

namespace Automation.Action

def mailPreview : Nat := 120

def messageLimit : Nat := 160

def notePreview : Nat := 80

def clip (limit : Nat) (s : String) : String := .ofList (s.toList.take limit)

def wait : Action := describing fun n _ _ ↦
  let cfg := n.config
  let start := cfg.get "send_at_time"
  .ok <| .text <| "Waiting " ++ (cfg.get "wait_days").shown ++ " " ++
    ((cfg.get "wait_unit").orElse (.text "days")).shown ++
    if start.truthy then " (send at " ++ start.shown ++ ")" else ""

def email : Action := describing fun n context s ↦ do
  let cfg := n.config
  let fill (v : Value) : Except Fault String := Template.fill Template.mailNames v context s.now
  let subject ← fill ((cfg.get "subject").orElse (.text "[Template Email]"))
  let body ← fill ((cfg.get "body").orElse (.text ""))
  let template := cfg.get "template_id"
  return .object <| [("to", context.contact.email), ("subject", .text subject),
    ("body_preview", .text (clip mailPreview body))] ++
    if template.truthy then [("template_id", template)] else []

def message : Action := describing fun n context s ↦ do
  let text ← Template.fill Template.messageNames (n.config.get "body") context s.now
  return .object [("to", context.contact.phone.orElse context.contact.email),
    ("message", .text (clip messageLimit text))]

def dispatch : Action := describing fun n context _ ↦
  .ok (.text (n.displayType ++ " dispatched to " ++ context.contact.email.shown))

def webhook : Action := describing fun n _ _ ↦
  .ok (.text ("Webhook dispatched -> " ++ (n.config.get "url").shown))

def charge : Action := describing fun n context _ ↦
  .ok (.text ("Stripe charge of $" ++ (n.config.get "amount").shown ++ " queued for " ++
    context.contact.email.shown))

def sheet : Action := describing fun n _ _ ↦
  .ok (.text ("Google Sheets: " ++
    ((n.config.get "sheets_action").orElse (.text "add_row")).shown ++ " on sheet " ++
    (n.config.get "sheet_id").shown))

def membership : Action := changing fun n ↦
  n.displayType ++ ": " ++
    ((n.config.get "workflow_name").orElse ((n.config.get "scope").orElse (.text ""))).shown

def task : Action := changing fun n ↦ "Task created: \"" ++ (n.config.get "title").shown ++ "\""

def note : Action := changing fun n ↦
  "Note added: \"" ++ clip notePreview ((n.config.get "note").orElse (.text "")).shown ++ "\""

def condition : Action where
  act n context s := (n.asks context s.unknownCondition).map fun passed ↦
    let branch := if passed then "YES" else "NO"
    { context
      branch := .text branch
      output := .text ("Condition \"" ++ (n.config.get "condition_type").shown ++
        "\" evaluated to: " ++ branch) }

end Action

/-- The actions for the types of nodes that are known from the start. -/
def Actions.standard : Actions
  | "wait" => some .wait
  | "send_email" => some .email
  | "send_sms" => some .message
  | "send_voicemail" | "send_dm" | "send_review_request" | "send_notification" => some .dispatch
  | "custom_webhook" => some .webhook
  | "stripe_charge" => some .charge
  | "google_sheets" => some .sheet
  | "add_to_workflow" | "remove_from_workflow" => some .membership
  | "add_task" => some .task
  | "add_note" => some .note
  | "condition" => some .condition
  | _ => none

end Automation
