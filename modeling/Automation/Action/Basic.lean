import Automation.Change
import Automation.Instant
import Automation.Workflow.Rule

namespace Automation

structure Situation where
  now : Instant
  unknownCondition : Bool := true

structure Outcome where
  context : Context
  output : Value := .null
  branch : Value := .null
  renewed : Bool := false
  deriving DecidableEq, Repr

structure Action where
  act : Node → Context → Situation → Except Fault Outcome
  /-- What becomes of the rules when the action is taken, whether or not it succeeds. -/
  amend : Rules → Rules := id

abbrev Actions := String → Option Action

namespace Action

def changing (telling : Node → String) : Action where
  act n context _ := (n.change context).map fun context ↦
    { context, output := .text (telling n), renewed := true }

def describing (telling : Node → Context → Situation → Except Fault Value) : Action where
  act n context s := (telling n context s).map fun output ↦ { context, output }

/-- The action of nodes without one of their own. -/
def generic : Action := changing fun n ↦ "Applied: " ++ n.displayType

def failing (f : Fault) : Action where act _ _ _ := .error f

def constant (output branch : Value) (amend : Rules → Rules) : Action where
  act _ context _ := .ok { context, output, branch }
  amend := amend

end Action

namespace Actions

def find (actions : Actions) (type : String) : Action := (actions type).getD .generic

def put (actions : Actions) (type : String) (action : Action) : Actions := fun t ↦
  if t = type then some action else actions t

theorem find_put_self (actions : Actions) (type : String) (action : Action) :
    (actions.put type action).find type = action := by simp [find, put]

theorem find_put_other (actions : Actions) {type other : String} (action : Action)
    (h : other ≠ type) : (actions.put type action).find other = actions.find other := by
  simp [find, put, h]

end Actions

end Automation
