import Automation.Context.Basic
import Automation.Value.Number
import Automation.Workflow.Node

namespace Automation

inductive Condition where
  | hasTag | emailOpened | linkClicked | noResponse | valueAbove | contactStatus
  deriving DecidableEq, Repr

namespace Condition

def ofName? : String → Option Condition
  | "has_tag" => some hasTag
  | "email_opened" => some emailOpened
  | "link_clicked" => some linkClicked
  | "no_response" => some noResponse
  | "opp_value_gt" => some valueAbove
  | "contact_status" => some contactStatus
  | _ => none

def ofConfig? (cfg : Fields) : Except Fault (Option Condition) :=
  match cfg.get "condition_type" with
  | .text name => .ok (ofName? name)
  | v => match v.key? with
    | some _ => .ok none
    | none => .error (.unhashable v.kind)

def defaultDays : Int := 3

def compare (test : Binary64 → Binary64 → Bool) (a b : Value) : Except Fault Bool :=
  match a.asNumber, b.asNumber with
  | .tooLarge, _ | _, .tooLarge => .error .numberTooLarge
  | .number x, .number y => .ok (test x y)
  | _, _ => .ok false

def holds (c : Condition) (cfg : Fields) (context : Context) : Except Fault Bool :=
  match c with
  | hasTag => .ok ((cfg.get "tag").memberOf context.contact.tags)
  | emailOpened => .ok (context.notes.get "email_opened").truthy
  | linkClicked => .ok (context.notes.get "link_clicked").truthy
  | noResponse =>
    compare (fun days least ↦ least.le days)
      ((context.notes.get "days_since_last_contact").orElse (.int 0))
      ((cfg.get "no_response_days").orElse (.int defaultDays))
  | valueAbove =>
    compare (fun value least ↦ least.lt value)
      (context.opportunity.value.orElse (.int 0)) ((cfg.get "opp_value").orElse (.int 0))
  | contactStatus => .ok (context.contact.status.equals (cfg.get "contact_status"))

end Condition

/-- The answer to the condition of a node, `default` if it names none that is known. -/
def Node.asks (n : Node) (context : Context) (default : Bool) : Except Fault Bool := do
  match ← Condition.ofConfig? n.config with
  | some c => c.holds n.config context
  | none => return default

end Automation
