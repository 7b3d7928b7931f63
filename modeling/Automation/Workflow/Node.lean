import Automation.Workflow.Trigger

namespace Automation

open Schema

structure Node where
  id : Option String := none
  type : String
  label : Option String := none
  config : Fields := []
  extra : Fields := []
  deriving DecidableEq, Repr

def Schema.Reader.id : Reader (Option String)
  | .null => .good none
  | v => .good (some v.shown)

namespace Node

def declared : List String := ["id", "type", "label", "config"]

def read (fs : Fields) : Checked Node :=
  mk <$> field "id" none .id fs
    <*> required "type" .nonEmptyText fs
    <*> field "label" none (.optional .text) fs
    <*> field "config" [] .objectOrEmpty fs
    <*> pure (fs.without declared)

/-- A node from free data, in which an id that is no text becomes its text. -/
def ofValue : Value → Except Fault Node
  | .object fs => match (read fs).toExcept "Node" with
    | .ok n => .ok n
    | .error report =>
      .error (.failure (.definition (.unreadableNode (Fields.get fs "id") report)
        (Fields.get fs "id")))
  | v => .error (.failure (.definition (.nodeNotObject v.kind) .null))

def listOfValue (v : Value) : Except Fault (List Node) :=
  v.elementsIfGiven.bind fun vs ↦ vs.mapM ofValue

def fields (n : Node) : Fields :=
  ("id", textOrNull n.id) :: ("type", .text n.type) :: ("label", textOrNull n.label) ::
    ("config", .object n.config) :: n.extra

def displayType (n : Node) : String :=
  .ofList (n.type.toList.map fun c ↦ if c = '_' then ' ' else c)

def shownId (n : Node) : String := n.id.getD "None"

end Node

end Automation
