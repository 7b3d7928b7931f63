import Automation.Run.Step

namespace Automation

open Schema

structure Stop where
  nodeId : Option String := none
  message : String
  issues : Option (List Issue) := none
  deriving DecidableEq, Repr

namespace Stop

def read (fs : Fields) : Checked Stop :=
  mk <$> field "failing_node_id" none (.optional .text) fs
    <*> required "message" .text fs
    <*> field "issues" none (.optional (.list (.record "ValidationIssue" Issue.read))) fs

def fields (s : Stop) : Fields :=
  [("failing_node_id", textOrNull s.nodeId), ("message", .text s.message),
    ("issues", match s.issues with
      | none => .null
      | some issues => .list (issues.map fun i ↦ .object i.fields))]

end Stop

structure Result where
  success : Bool := false
  triggerType : Option String := none
  startedAt : String
  completedAt : Option String := none
  steps : List Step := []
  final : Option Context := none
  stop : Option Stop := none
  deriving DecidableEq, Repr

namespace Result

def read (fs : Fields) : Checked Result :=
  mk <$> field "success" false .flag fs
    <*> field "trigger_type" none (.optional .text) fs
    <*> required "started_at" .text fs
    <*> field "completed_at" none (.optional .text) fs
    <*> field "steps" [] (.list (.record "Step" Step.read)) fs
    <*> field "final_payload" none (.optional (.record "Context" Context.read)) fs
    <*> field "error" none (.optional (.record "RunError" Stop.read)) fs

def record (r : Result) : Except Fault Value := do
  let steps ← r.steps.mapM Step.record
  let final ← recordIfAny r.final
  return .object [
    ("success", .bool r.success),
    ("trigger_type", textOrNull r.triggerType),
    ("started_at", .text r.startedAt),
    ("completed_at", textOrNull r.completedAt),
    ("steps", .list steps),
    ("final_payload", final),
    ("error", (r.stop.map fun s ↦ .object s.fields).getD .null)]

end Result

end Automation
