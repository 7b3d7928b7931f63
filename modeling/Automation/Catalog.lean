import Automation.Fault
import Automation.Value.Identity

namespace Automation

structure Offer where
  id : String
  label : String
  deriving DecidableEq, Repr

abbrev Catalog := List (String × List Offer)

namespace Catalog

def triggers : Catalog := [
  ("Contact", [
    ⟨"contact_created", "Contact Created"⟩,
    ⟨"contact_changed", "Contact Changed"⟩,
    ⟨"tag_added", "Tag Added"⟩,
    ⟨"tag_removed", "Tag Removed"⟩,
    ⟨"birthday_reminder", "Birthday Reminder"⟩,
    ⟨"custom_date_reminder", "Custom Date Reminder"⟩,
    ⟨"note_added", "Note Added / Changed"⟩,
    ⟨"task_added", "Task Added"⟩,
    ⟨"task_completed", "Task Completed"⟩]),
  ("Appointment", [
    ⟨"appointment_status", "Appointment Status Changed"⟩,
    ⟨"customer_booked", "Customer Booked Appointment"⟩]),
  ("Forms & Submissions", [
    ⟨"form_submission", "Form Submitted"⟩,
    ⟨"survey_submitted", "Survey Submitted"⟩,
    ⟨"order_form_submission", "Order Form Submission"⟩]),
  ("Communication", [
    ⟨"email_opened", "Email Opened"⟩,
    ⟨"email_clicked", "Link Clicked"⟩,
    ⟨"trigger_link_clicked", "Trigger Link Clicked"⟩,
    ⟨"customer_replied", "Customer Replied"⟩,
    ⟨"call_event", "Call / Email Event"⟩,
    ⟨"no_response", "No Response After X Days"⟩]),
  ("Opportunity", [
    ⟨"opportunity_created", "Opportunity Created"⟩,
    ⟨"opportunity_stage_changed", "Opportunity Stage Changed"⟩,
    ⟨"contact_status_changed", "Contact Status Changed"⟩]),
  ("Membership / Courses", [
    ⟨"membership_signup", "Membership Signup"⟩,
    ⟨"category_completed", "Category / Product Completed"⟩,
    ⟨"offer_access_granted", "Offer Access Granted"⟩,
    ⟨"offer_access_removed", "Offer Access Removed"⟩]),
  ("Advanced", [
    ⟨"inbound_webhook", "Inbound Webhook"⟩,
    ⟨"document_event", "Document / Contract Event"⟩,
    ⟨"manual", "Manual Start"⟩])]

def actions : Catalog := [
  ("Communication", [
    ⟨"send_email", "Send Email"⟩,
    ⟨"send_sms", "Send SMS"⟩,
    ⟨"send_voicemail", "Call / Voicemail"⟩,
    ⟨"send_dm", "Messenger / Instagram DM"⟩]),
  ("Contact", [
    ⟨"add_tag", "Add Tag"⟩,
    ⟨"remove_tag", "Remove Tag"⟩,
    ⟨"update_contact", "Update Contact"⟩,
    ⟨"assign_salesperson", "Assign / Reassign Contact"⟩,
    ⟨"move_to_campaign", "Move to Campaign"⟩,
    ⟨"change_status", "Change Status"⟩,
    ⟨"add_note", "Add Note"⟩]),
  ("Opportunity", [
    ⟨"create_opportunity", "Create Opportunity"⟩,
    ⟨"update_opportunity", "Update Opportunity"⟩]),
  ("Tasks & Notifications", [
    ⟨"add_task", "Add Task"⟩,
    ⟨"send_notification", "Send Internal Notification"⟩,
    ⟨"send_review_request", "Send Review Request"⟩]),
  ("Logic", [
    ⟨"condition", "If / Else Condition"⟩,
    ⟨"wait", "Wait / Delay"⟩,
    ⟨"add_to_workflow", "Add to Workflow"⟩,
    ⟨"remove_from_workflow", "Remove from Workflow"⟩]),
  ("Integrations", [
    ⟨"custom_webhook", "Custom Webhook"⟩,
    ⟨"stripe_charge", "Stripe Charge"⟩,
    ⟨"google_sheets", "Google Sheets"⟩])]

def ids (c : Catalog) : List String := c.flatMap fun g ↦ g.2.map Offer.id

def sortedIds (c : Catalog) : List String := c.ids.mergeSort fun a b ↦ decide (a ≤ b)

/-- Whether a type is on offer. Lists and objects cannot be looked up. -/
def offers (c : Catalog) (type : Value) : Except Fault Bool :=
  match type with
  | .text s => .ok (c.ids.contains s)
  | v => if v.key?.isSome then .ok false else .error (.unhashable v.kind)

def offerFields (o : Offer) : Fields := [("id", .text o.id), ("label", .text o.label)]

def record (c : Catalog) : Value :=
  .object (c.map fun g ↦ (g.1, .list (g.2.map fun o ↦ .object (offerFields o))))

def inGroup (group : String) : Value → Except Fault Value
  | .object fs => .ok (.object (Fields.set fs "category" (.text group)))
  | v => .error (.argument ("'" ++ v.kind.name ++ "' object is not a mapping"))

def listed : Value → Except Fault Value
  | .object groups => do
    let items ← groups.mapM fun g ↦ do (← g.2.elements).mapM (inGroup g.1)
    return .list items.flatten
  | v => .error (.memberless v.kind "items")

def sample : Fields := [
  ("id", .text "contact_demo"),
  ("email", .text "jane@example.com"),
  ("first_name", .text "Jane"),
  ("name", .text "Jane Smith"),
  ("company", .text "Acme Corp"),
  ("status", .text "subscribed"),
  ("contact_type", .text "lead"),
  ("tags", .list [.text "prospect"]),
  ("opportunity_stage", .text "qualification"),
  ("opportunity_value", .int 2500)]

end Catalog

end Automation
