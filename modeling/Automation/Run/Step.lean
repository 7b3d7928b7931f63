import Automation.Context.Basic
import Automation.Workflow.Issue

namespace Automation

open Schema

inductive Status where
  | pending | success | error
  deriving DecidableEq, Repr

inductive Branch where
  | yes | no
  deriving DecidableEq, Repr

def Status.name : Status → String
  | .pending => "pending"
  | .success => "success"
  | .error => "error"

def Branch.name : Branch → String
  | .yes => "YES"
  | .no => "NO"

def Status.choices : List (String × Status) :=
  [Status.pending, .success, .error].map fun s ↦ (s.name, s)

def Branch.choices : List (String × Branch) := [Branch.yes, .no].map fun b ↦ (b.name, b)

structure Step where
  nodeId : Option String := none
  nodeType : String
  index : Nat
  status : Status := .pending
  output : Value := .null
  error : Option String := none
  branch : Option Branch := none
  after : Option Context := none
  deriving DecidableEq, Repr

namespace Step

def branchReader : Reader (Option Branch) := .optional (.choice Branch.choices)

def read (fs : Fields) : Checked Step :=
  mk <$> field "node_id" none (.optional .text) fs
    <*> required "node_type" .text fs
    <*> (Int.toNat <$> required "index" (.integerFrom 1) fs)
    <*> field "status" .pending (.choice Status.choices) fs
    <*> field "output" .null .anything fs
    <*> field "error" none (.optional .text) fs
    <*> field "branch_taken" none branchReader fs
    <*> field "payload_after" none (.optional (.record "Context" Context.read)) fs

def ofAnswer (n : Node) (index : Nat) (output branch : Value) (after : Context) :
    Except Schema.Report Step :=
  (Checked.map (fun branch ↦ {
    nodeId := n.id
    nodeType := n.type
    index
    status := .success
    output
    branch
    after := some after })
    ((branchReader branch).within (.field "branch_taken"))).toExcept "Step"

def ofFault (n : Node) (index : Nat) (statement : Value) : Except Schema.Report Step :=
  (Checked.map (fun error ↦ {
    nodeId := n.id
    nodeType := n.type
    index
    status := .error
    error := some error })
    ((Reader.text statement).within (.field "error"))).toExcept "Step"

end Step

def recordIfAny : Option Context → Except Fault Value
  | none => .ok .null
  | some c => c.record

def Step.record (s : Step) : Except Fault Value :=
  (recordIfAny s.after).map fun after ↦ .object [
    ("node_id", textOrNull s.nodeId),
    ("node_type", .text s.nodeType),
    ("index", .int s.index),
    ("status", .text s.status.name),
    ("output", s.output.finite),
    ("error", textOrNull s.error),
    ("branch_taken", textOrNull (s.branch.map Branch.name)),
    ("payload_after", after)]

end Automation
