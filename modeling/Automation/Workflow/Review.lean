import Automation.Log.Record
import Automation.Workflow.Issue
import Automation.Workflow.Rule

namespace Automation.Review

/-- What is amiss with a node from free data. One that cannot be read has that as its only message.
-/
def messages (rules : Rules) (raw : Value) : Except Fault (List String) :=
  match Node.ofValue raw with
  | .ok n => rules.check n
  | .error f => if f.isFailure then .ok [f.message] else .error f

def trigger (raw : Value) : List Issue :=
  match Trigger.ofValue raw with
  | .ok { type := some type, .. } => if type = "" then [missing] else []
  | _ => [missing]
where
  missing : Issue := { nodeId := some "trigger", message := "Trigger is not set" }

def emptiness (nodes : List Value) : List Issue :=
  if nodes.isEmpty then [{ message := "Add at least one action node" }] else []

def unreadable (position : Nat) (f : Failure) : Except Fault (List Issue) :=
  let id := match f with
    | .definition _ id => id
    | _ => .null
  (Issue.ofRawId id ("Node " ++ intText position ++ ": " ++ f.message) position).map ([·])

def amiss (position : Nat) (n : Node) (messages : List String) : List Issue :=
  messages.map fun m ↦ {
    nodeId := n.id
    message := "Node " ++ intText position ++ " (" ++ n.type ++ "): " ++ m
    position := some position }

def node (rules : Rules) (position : Nat) (raw : Value) : Except Fault (List Issue) :=
  match Node.ofValue raw with
  | .ok n => (rules.check n).map (amiss position n)
  | .error (.failure f) => unreadable position f
  | .error f => .error f

def nodes (rules : Rules) : Nat → List Value → Except Fault (List Issue)
  | _, [] => .ok []
  | position, raw :: rest => do
    let issues ← node rules position raw
    return issues ++ (← nodes rules (position + 1) rest)

/-- The issues of the trigger, then the one of having no nodes, then those of the nodes in their
order. -/
def workflow (rules : Rules) (rawTrigger : Value) (rawNodes : List Value) :
    Except Fault (List Issue) :=
  (nodes rules 1 rawNodes).map ((trigger rawTrigger ++ emptiness rawNodes) ++ ·)

def logged (rules : Rules) (rawTrigger : Value) (rawNodes : List Value) : Traced (List Issue) := do
  let issues ← Traced.lift (workflow rules rawTrigger rawNodes)
  if !issues.isEmpty then
    Traced.log {
      level := Log.debug
      logger := "autoflow.core.validation"
      message := "Workflow validation found " ++ intText issues.length ++ " issue(s)" }
  return issues

theorem nodes_append (rules : Rules) (position : Nat) (xs ys : List Value) :
    nodes rules position (xs ++ ys) = (do
      let issues ← nodes rules position xs
      return issues ++ (← nodes rules (position + xs.length) ys)) := by
  induction xs generalizing position with
  | nil =>
    cases h : nodes rules position ys <;> simp [nodes, h, bind, Except.bind, pure, Except.pure]
  | cons x xs ih =>
    simp only [List.cons_append, nodes, ih, List.length_cons]
    rw [show position + (xs.length + 1) = position + 1 + xs.length by omega]
    cases node rules position x <;> simp [bind, Except.bind]
    cases nodes rules (position + 1) xs <;> simp [pure, Except.pure]
    cases nodes rules (position + 1 + xs.length) ys <;> simp

def nodeIds (rawNodes : List Value) : List String :=
  rawNodes.filterMap fun raw ↦ match Node.ofValue raw with
    | .ok n => n.id
    | .error _ => none

def readEdge : Value → Except Fault Edge
  | .object fs => match (Edge.read fs).toExcept "Edge" with
    | .ok e => .ok e
    | .error report => .error (.schema report)
  | v => .error (.notMapping "autoflow.core.nodes.Edge" v.kind)

def endpoint (ids : List String) (label id : String) : List Issue :=
  if ids.contains id then []
  else
    [{ nodeId := some id
       message := "Edge " ++ label ++ " references unknown node '" ++ id ++ "'" }]

def edgeLabel (position : Nat) (e : Edge) : String :=
  match e.id with
  | none | some "" => intText position
  | some id => id

def edge (ids : List String) (position : Nat) (raw : Value) : List Issue :=
  match readEdge raw with
  | .error f =>
    [{ message := "Edge " ++ intText position ++ ": invalid edge (" ++ f.message ++ ")" }]
  | .ok e =>
    endpoint ids (edgeLabel position e) e.source ++ endpoint ids (edgeLabel position e) e.target

def edgesFrom (ids : List String) : Nat → List Value → List Issue
  | _, [] => []
  | position, raw :: rest => edge ids position raw ++ edgesFrom ids (position + 1) rest

def edges (rawNodes rawEdges : List Value) : List Issue := edgesFrom (nodeIds rawNodes) 1 rawEdges

def edgesOfValue (rawNodes rawEdges : Value) : Except Fault (List Issue) := do
  let nodes ← rawNodes.elementsIfGiven
  return edges nodes (← rawEdges.elementsIfGiven)

end Automation.Review
