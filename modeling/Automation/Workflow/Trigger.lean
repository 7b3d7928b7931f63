import Automation.Fault
import Automation.Schema.Field

namespace Automation

open Schema

structure Trigger where
  type : Option String := none
  condition : Fields := []
  extra : Fields := []
  deriving DecidableEq, Repr

def Schema.Reader.objectOrEmpty : Reader Fields
  | .null => .good []
  | v => Reader.object v

namespace Trigger

def declared : List String := ["type", "condition"]

def read (fs : Fields) : Checked Trigger :=
  mk <$> field "type" none (.optional .text) fs
    <*> field "condition" [] .objectOrEmpty fs
    <*> pure (fs.without declared)

def ofValue : Value → Except Fault Trigger
  | .null => .ok {}
  | .object fs => match (read fs).toExcept "Trigger" with
    | .ok t => .ok t
    | .error report => .error (.failure (.definition (.unreadableTrigger report) .null))
  | v => .error (.failure (.definition (.triggerNotObject v.kind) .null))

def fields (t : Trigger) : Fields :=
  ("type", textOrNull t.type) :: ("condition", .object t.condition) :: t.extra

def shownType (type : Option String) : String := type.getD "None"

end Trigger

end Automation
