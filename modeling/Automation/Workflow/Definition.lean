import Automation.Workflow.Node

namespace Automation

open Schema

structure Edge where
  id : Option String := none
  source : String
  target : String
  label : Option String := none
  extra : Fields := []
  deriving DecidableEq, Repr

namespace Edge

def declared : List String := ["id", "source", "target", "label"]

def read (fs : Fields) : Checked Edge :=
  mk <$> field "id" none (.optional .text) fs
    <*> required "source" .nonEmptyText fs
    <*> required "target" .nonEmptyText fs
    <*> field "label" none (.optional .text) fs
    <*> pure (fs.without declared)

def fields (e : Edge) : Fields :=
  ("id", textOrNull e.id) :: ("source", .text e.source) :: ("target", .text e.target) ::
    ("label", textOrNull e.label) :: e.extra

end Edge

structure Definition where
  trigger : Trigger := {}
  nodes : List Node := []
  edges : List Edge := []
  deriving DecidableEq, Repr

namespace Definition

def triggerReader : Reader Trigger
  | .null => Trigger.read []
  | v => Reader.record "Trigger" Trigger.read v

def read (fs : Fields) : Checked Definition :=
  mk <$> field "trigger" {} triggerReader fs
    <*> field "nodes" [] (.list (.record "Node" Node.read)) fs
    <*> field "edges" [] (.list (.record "Edge" Edge.read)) fs

def fields (d : Definition) : Fields :=
  [("trigger", .object d.trigger.fields),
    ("nodes", .list (d.nodes.map fun n ↦ .object n.fields)),
    ("edges", .list (d.edges.map fun e ↦ .object e.fields))]

end Definition

end Automation
