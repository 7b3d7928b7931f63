import Automation.Schema.Problem
import Automation.Value.Text

namespace Automation

inductive Cause where
  | stated (message : Value)
  | nodeNotObject (kind : Kind)
  | unreadableNode (id : Value) (report : Schema.Report)
  | triggerNotObject (kind : Kind)
  | unreadableTrigger (report : Schema.Report)
  | protectedField (name : Value)
  | opportunityValue (given : Value)
  | conditionPolicy (given : String)
  | brokerUnset
  deriving DecidableEq, Repr

def brokerSetting : String := "REDIS_URL"

def policySetting : String := "UNKNOWN_CONDITION_POLICY"

namespace Cause

def message : Cause → String
  | .stated v => v.shown
  | .nodeNotObject kind => "Node must be an object, got " ++ kind.name
  | .unreadableNode id report => "Failed to parse node " ++ id.shown ++ ": " ++ report.message
  | .triggerNotObject kind => "Trigger must be an object, got " ++ kind.name
  | .unreadableTrigger report => "Failed to parse trigger: " ++ report.message
  | .protectedField name => "Contact field '" ++ name.shown ++ "' cannot be set by update_contact"
  | .opportunityValue given => "Opportunity value must be a number, got " ++ given.inner
  | .conditionPolicy given =>
    policySetting ++ " must be one of ['allow', 'deny'], got '" ++ given ++ "'"
  | .brokerUnset =>
    brokerSetting ++ " environment variable not set. " ++
      "Required for Celery message broker and result backend."

def statement : Cause → Value
  | .stated v => v
  | c => .text c.message

end Cause

inductive FailureKind where
  | general | workflow | definition | execution | configuration
  deriving DecidableEq, Repr

namespace FailureKind

def named : List (String × FailureKind) := [
  ("AutoflowException", .general), ("WorkflowError", .workflow),
  ("WorkflowValidationError", .definition), ("NodeExecutionError", .execution),
  ("ConfigurationError", .configuration)]

def ofName? (name : String) : Option FailureKind := named.lookup name

def name (kind : FailureKind) : String := ((named.find? fun p ↦ p.2 = kind).map (·.1)).getD ""

end FailureKind

def FailureKind.lineage : FailureKind → List FailureKind
  | .general => [.general]
  | .workflow => [.workflow, .general]
  | .definition => [.definition, .workflow, .general]
  | .execution => [.execution, .workflow, .general]
  | .configuration => [.configuration, .general]

/-- A failure: its cause, and where it arose. Only general ones say whether to try again; the others
would fail the same way. -/
inductive Failure where
  | general (cause : Cause) (retryAllowed : Value)
  | workflow (cause : Cause) (retryAllowed : Value)
  | definition (cause : Cause) (nodeId : Value)
  | execution (cause : Cause) (nodeId nodeType : Value)
  | configuration (cause : Cause) (setting : Value)
  deriving DecidableEq, Repr

namespace Failure

def kind : Failure → FailureKind
  | .general .. => .general
  | .workflow .. => .workflow
  | .definition .. => .definition
  | .execution .. => .execution
  | .configuration .. => .configuration

def cause : Failure → Cause
  | .general c _ | .workflow c _ | .definition c _ | .execution c _ _ | .configuration c _ => c

def message (f : Failure) : String := f.cause.message

def details : Failure → Fields
  | .general _ r | .workflow _ r => [("retry_allowed", r)]
  | .definition _ n => [("retry_allowed", .bool false), ("node_id", n)]
  | .execution _ n t => [("retry_allowed", .bool false), ("node_id", n), ("node_type", t)]
  | .configuration _ s => [("retry_allowed", .bool false), ("setting", s)]

def plain (kind : FailureKind) (message : Value) : Failure :=
  match kind with
  | .general => .general (.stated message) (.bool true)
  | .workflow => .workflow (.stated message) (.bool true)
  | .definition => .definition (.stated message) .null
  | .execution => .execution (.stated message) .null .null
  | .configuration => .configuration (.stated message) .null

def parameters : FailureKind → List String
  | .general | .workflow => ["retry_allowed"]
  | .definition => ["node_id"]
  | .execution => ["node_id", "node_type"]
  | .configuration => ["setting"]

def maker : FailureKind → String
  | .general | .workflow => "AutoflowException.__init__()"
  | .definition => "WorkflowValidationError.__init__()"
  | .execution => "NodeExecutionError.__init__()"
  | .configuration => "ConfigurationError.__init__()"

def namedProblem? (kind : FailureKind) (names given : List String) : Fields → Option String
  | [] => none
  | (k, _) :: rest =>
    if !names.contains k then
      some (maker kind ++ " got an unexpected keyword argument " ++ Text.quoted k)
    else if given.contains k then
      some (maker kind ++ " got multiple values for argument " ++ Text.quoted k)
    else namedProblem? kind names given rest

def raise (kind : FailureKind) (args : List Value) (named : Fields) : Except String Failure :=
  let names := "message" :: parameters kind
  let given := names.zip args
  let find (name : String) : Option Value := given.lookup name <|> named.lookup name
  match namedProblem? kind names (given.map (·.1)) named with
  | some problem => .error problem
  | none =>
    if names.length < args.length then
      .error (maker kind ++ " takes from 2 to " ++ intText (names.length + 1) ++
        " positional arguments but " ++ intText (args.length + 1) ++ " were given")
    else match find "message" with
      | none => .error (maker kind ++ " missing 1 required positional argument: 'message'")
      | some m =>
        let c := Cause.stated m
        .ok (match kind with
          | .general => .general c ((find "retry_allowed").getD (.bool true))
          | .workflow => .workflow c ((find "retry_allowed").getD (.bool true))
          | .definition => .definition c ((find "node_id").getD .null)
          | .execution =>
            .execution c ((find "node_id").getD .null) ((find "node_type").getD .null)
          | .configuration => .configuration c ((find "setting").getD .null))

end Failure

end Automation
