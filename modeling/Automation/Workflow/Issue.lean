import Automation.Workflow.Definition

namespace Automation

open Schema

structure Issue where
  nodeId : Option String := none
  message : String
  position : Option Int := none
  deriving DecidableEq, Repr

namespace Issue

def read (fs : Fields) : Checked Issue :=
  mk <$> field "node_id" none (.optional .text) fs
    <*> required "message" .text fs
    <*> field "position" none (.optional .integer) fs

def fields (i : Issue) : Fields :=
  [("node_id", textOrNull i.nodeId), ("message", .text i.message),
    ("position", (i.position.map Value.int).getD .null)]

/-- An issue of a node whose id is any value. Only a text, or nothing, can be named. -/
def ofRawId (id : Value) (message : String) (position : Nat) : Except Fault Issue :=
  match ((Reader.optional Reader.text id).within (.field "node_id")).toExcept "ValidationIssue" with
  | .ok nodeId => .ok ⟨nodeId, message, some position⟩
  | .error report => .error (.schema report)

end Issue

end Automation
