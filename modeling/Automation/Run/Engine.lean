import Automation.Action.Standard
import Automation.Clock
import Automation.Context.Event
import Automation.Run.Result
import Automation.Workflow.Review

namespace Automation

structure Engine where
  actions : Actions := .standard
  unknownCondition : Bool := true

structure Run where
  records : List Log.Record
  rules : Rules
  clock : Clock
  outcome : Except Fault Result

namespace Run

def note (level : Log.Level) (message : String) (fields : Fields) (withFault : Bool) : Log.Record :=
  { level, logger := "autoflow.core.engine", message, fields, withFault }

structure Attempt where
  records : List Log.Record
  rules : Rules
  outcome : Except Fault (Step × Context)

def statement : Fault → Value
  | .failure f => f.cause.statement
  | f => .text f.message

/-- A record or step that does not fit its schema, as a fault. -/
def checked {α : Type} (x : Except Schema.Report α) : Except Fault α := x.mapError .schema

def nodeName (n : Node) : String := n.shownId ++ " (" ++ n.type ++ ")"

def nodeFields (n : Node) (index : Nat) : Fields :=
  [("node_id", textOrNull n.id), ("node_type", .text n.type), ("index", .int index)]

def rejected (rules : Rules) (index : Nat) (context : Context) (n : Node) (amiss : List String) :
    Attempt :=
  let message := Value.joinWith "; " amiss
  { records := [note Log.warning ("Node " ++ nodeName n ++ " failed validation: " ++ message)
      (nodeFields n index) false]
    rules
    outcome := checked ((Step.ofFault n index (.text message)).map (·, context)) }

def failed (rules : Rules) (index : Nat) (context : Context) (n : Node) (f : Fault) : Attempt :=
  { records := [if f.isFailure then
        note Log.error ("Node " ++ nodeName n ++ " failed: " ++ f.message) [] false
      else note Log.error ("Unexpected error executing node " ++ nodeName n) [] true]
    rules
    outcome := checked
      ((Step.ofFault n index ((statement f).orElse (.text "Unknown error"))).map (·, context)) }

def answered (rules : Rules) (index : Nat) (n : Node) (o : Outcome) : Attempt :=
  { records := [note Log.info ("Node " ++ nodeName n ++ " completed in 0.0000s")
      (nodeFields n index ++ [("branch_taken", o.branch)]) false]
    rules
    outcome := checked ((Step.ofAnswer n index o.output o.branch o.context).map (·, o.context)) }

def attempt (actions : Actions) (s : Situation) (rules : Rules) (index : Nat) (context : Context)
    (n : Node) : Attempt :=
  match rules.check n with
  | .error f => ⟨[], rules, .error f⟩
  | .ok (m :: ms) => rejected rules index context n (m :: ms)
  | .ok [] =>
    let action := actions.find n.type
    let rules := action.amend rules
    match action.act n context s with
    | .error f => failed rules index context n f
    | .ok o => answered rules index n o

inductive Ending where
  | completed (context : Context)
  | stopped (n : Node) (message : String)
  deriving DecidableEq, Repr

structure Course where
  records : List Log.Record
  rules : Rules
  outcome : Except Fault (List Step × Ending)

def course (actions : Actions) (s : Situation) : Rules → Nat → Context → List Node → Course
  | rules, _, context, [] => ⟨[], rules, .ok ([], .completed context)⟩
  | rules, index, context, n :: rest =>
    let a := attempt actions s rules index context n
    match a.outcome with
    | .error f => ⟨a.records, a.rules, .error f⟩
    | .ok (step, context) => match step.error with
      | some message =>
        ⟨a.records ++ [note Log.error
          ("Workflow run failed at node " ++ n.shownId ++ ": " ++ message) [] false],
          a.rules, .ok ([step], .stopped n message)⟩
      | none =>
        let c := course actions s a.rules (index + 1) context rest
        ⟨a.records ++ c.records, c.rules, c.outcome.map fun p ↦ (step :: p.1, p.2)⟩

inductive Prepared where
  | invalid (first : Issue) (more : List Issue)
  | ready (nodes : List Node) (context : Context)

def triggerType (raw : Value) : Option String :=
  match Trigger.ofValue raw with
  | .ok t => t.type
  | .error _ => none

def prepare (rules : Rules) (now : Instant) (trigger nodes payload edges : Value) :
    Traced Prepared := do
  let rawNodes ← Traced.lift nodes.elementsIfGiven
  let edgeCount ← Traced.lift edges.countIfGiven
  Traced.log (note Log.info ("Starting workflow run (trigger: " ++
    Trigger.shownType (triggerType trigger) ++ ", " ++ intText rawNodes.length ++ " nodes, " ++
    intText edgeCount ++ " edges not followed)") [] false)
  match ← Review.logged rules trigger rawNodes with
  | first :: more =>
    Traced.log (note Log.warning ("Workflow invalid, no node executed: " ++ first.message)
      [("issue_count", .int (first :: more).length)] false)
    return .invalid first more
  | [] =>
    let t ← Traced.lift (Trigger.ofValue trigger)
    let nodes ← Traced.lift (rawNodes.mapM Node.ofValue)
    let context ← Event.logged t payload now
    return .ready nodes context

def invalid (type : Option String) (startedAt : String) (first : Issue) (more : List Issue) :
    Result :=
  { triggerType := type
    startedAt
    stop := some {
      nodeId := first.nodeId
      message := first.message
      issues := some (first :: more) } }

def stopped (type : Option String) (startedAt : String) (steps : List Step) (n : Node)
    (message : String) : Result :=
  { triggerType := type
    startedAt
    steps
    stop := some { nodeId := n.id, message } }

def completed (type : Option String) (startedAt completedAt : String) (steps : List Step)
    (context : Context) : Result :=
  { success := true
    triggerType := type
    startedAt
    completedAt := some completedAt
    steps
    final := some context }

end Run

namespace Engine

open Run

/-- The first node that fails ends a run. Branches are recorded and edges counted, but neither is
followed. -/
def run (e : Engine) (rules : Rules) (clock : Clock) (trigger nodes payload edges : Value) : Run :=
  let (now, clock) := clock.read
  let type := triggerType trigger
  let p := prepare rules now trigger nodes payload edges
  match p.outcome with
  | .error f => ⟨p.records, rules, clock, .error f⟩
  | .ok (.invalid first more) => ⟨p.records, rules, clock, .ok (invalid type now.text first more)⟩
  | .ok (.ready nodes context) =>
    let c := course e.actions ⟨now, e.unknownCondition⟩ rules 1 context nodes
    match c.outcome with
    | .error f => ⟨p.records ++ c.records, c.rules, clock, .error f⟩
    | .ok (steps, .stopped n message) =>
      ⟨p.records ++ c.records, c.rules, clock, .ok (stopped type now.text steps n message)⟩
    | .ok (steps, .completed context) =>
      let (later, clock) := clock.read
      let closing := note Log.info ("Workflow run completed successfully (" ++
        intText steps.length ++ " nodes executed)") [] false
      ⟨p.records ++ c.records ++ [closing], c.rules, clock,
        .ok (completed type now.text later.text steps context)⟩

def runDefinition (e : Engine) (rules : Rules) (clock : Clock) (definition payload : Value) : Run :=
  match definition.orElse (.object []) with
  | .object fs =>
    let get (name : String) : Value := Fields.get fs name
    e.run rules clock (get "trigger") (get "nodes") payload (get "edges")
  | v => ⟨[], rules, clock, .error (.memberless v.kind "get")⟩

end Engine

end Automation
