import Automation.Context.Basic
import Automation.Instant
import Automation.Log.Record
import Automation.Text.Blank
import Automation.Workflow.Trigger

namespace Automation.Event

open Schema

def text (v : Value) : String := if v.truthy then v.shown else ""

/-- Numbers as they are, texts as the numbers they spell, and zero for all else. -/
def number : Value → Value
  | .int n => .int n
  | .float x => .float x
  | .text s => match Binary64.ofText? s with
    | some x => .float x
    | none => .int 0
  | .special s => match s.number? with
    | some x => .float x
    | none => .int 0
  | .null | .bool _ | .list _ | .object _ => .int 0

def mapping : Value → Fields
  | .object fs => fs
  | _ => []

def pieces (separator : Char) : List Char → List (List Char)
  | [] => [[]]
  | c :: cs =>
    if c = separator then [] :: pieces separator cs
    else match pieces separator cs with
      | [] => [[c]]
      | p :: ps => (c :: p) :: ps

def commaList (s : String) : List String :=
  ((pieces ',' s.toList).map Text.trim).filterMap fun p ↦ if p = [] then none else some (.ofList p)

def tags : Value → List String
  | .text s => commaList s
  | .list vs => (vs.filter fun v ↦ v != .null && v != .text "").map Value.shown
  | _ => []

def splitName (name : List Char) : List Char × List Char :=
  let cs := Text.trim name
  (cs.takeWhile (· ≠ ' '), Text.trim ((cs.dropWhile (· ≠ ' ')).drop 1))

def names : Value → String × String
  | .text s => ((splitName s.toList).map String.ofList String.ofList)
  | _ => ("", "")

def textOr (a b : String) : String := if a = "" then b else a

def contact (payload : Fields) : Contact :=
  let get (name : String) : Value := payload.get name
  let field (name : String) : Value := .text (text (get name))
  let (first, last) := names (get "name")
  { id := .text (text ((get "contact_id").orElse (get "id")))
    email := .text (text ((get "email").orElse (get "contact_email")))
    firstName := .text (textOr (text (get "first_name")) first)
    lastName := .text (textOr (text (get "last_name")) last)
    company := field "company"
    phone := field "phone"
    tags := Tags.ofTexts (tags (get "tags"))
    status := field "status"
    contactType := field "contact_type"
    given := Contact.declared.map .text }

def opportunity (payload : Fields) : Except Fault Opportunity :=
  let field (name : String) : Value := .text (text (payload.get name))
  let value : Checked Binary64 :=
    (Reader.number (number (payload.get "opportunity_value"))).within (.field "value")
  match value.toExcept "Opportunity" with
  | .error report => .error (.schema report)
  | .ok x => .ok {
      id := field "opportunity_id"
      stage := field "opportunity_stage"
      value := .float x
      status := field "opportunity_status"
      pipeline := field "opportunity_pipeline" }

def notes (trigger : Trigger) (payload : Fields) (opportunity : Opportunity) : Fields :=
  let field (name : String) : String × Value := (name, .text (text (payload.get name)))
  let object (name : String) : String × Value := (name, .object (mapping (payload.get name)))
  match trigger.type.getD "" with
  | "tag_added" | "tag_removed" =>
    [("tag", .text (text ((payload.get "tag").orElse (trigger.condition.get "tag"))))]
  | "email_opened" | "email_clicked" | "trigger_link_clicked" =>
    [field "campaign_id", field "link_url"]
  | "no_response" => [("days_since_last_contact", number (payload.get "days"))]
  | "opportunity_stage_changed" =>
    [field "previous_stage",
      ("new_stage", (Value.text (text (payload.get "new_stage"))).orElse opportunity.stage)]
  | "form_submission" | "survey_submitted" | "order_form_submission" =>
    [field "form_id", object "form_data"]
  | "appointment_status" | "customer_booked" =>
    [field "appointment_status", field "appointment_date"]
  | "membership_signup" | "category_completed" | "offer_access_granted" | "offer_access_removed" =>
    [field "product_name"]
  | "document_event" => [field "document_status"]
  | "inbound_webhook" => [object "webhook_data"]
  | "birthday_reminder" | "custom_date_reminder" => [field "reminder_date"]
  | "task_added" | "task_completed" => [field "task_title"]
  | "note_added" => [field "note_content"]
  | "call_event" | "customer_replied" => [field "channel"]
  | _ => []

/-- The first context of a run. A payload that is no object counts as empty. -/
def toContext (trigger : Trigger) (payload : Value) (now : Instant) : Except Fault Context :=
  let fields := mapping payload
  (opportunity fields).map fun deal ↦ {
    triggerType := textOr (trigger.type.getD "") "unknown"
    triggeredAt := now.text
    contact := contact fields
    opportunity := deal
    notes := Fields.merge (mapping (Fields.get fields "meta")) (notes trigger fields deal) }

def sortedNames (fs : Fields) : List String := (fs.map (·.1)).mergeSort fun a b ↦ decide (a ≤ b)

def logged (trigger : Trigger) (payload : Value) (now : Instant) : Traced Context := do
  let context ← Traced.lift (toContext trigger payload now)
  Traced.log {
    level := Log.debug
    logger := "autoflow.core.normalizer"
    message := "Normalized payload for trigger '" ++ Trigger.shownType trigger.type ++ "'"
    fields := [("trigger_type", textOrNull trigger.type),
      ("meta_keys", .list ((sortedNames context.notes).map .text))] }
  return context

end Automation.Event
