import Automation.Queue.Account
import Automation.Run.Engine
import Automation.Settings

namespace Automation

namespace Task

structure Finished where
  records : List Log.Record
  rules : Rules
  clock : Clock
  outcome : Except Fault Value

def note (level : Log.Level) (id message : String) : Log.Record :=
  { level, logger := "autoflow.workers.tasks", message := "Task " ++ id ++ ": " ++ message }

def closing (id : String) (r : Result) : Log.Record :=
  match r.stop with
  | none => note Log.info id ("Completed (" ++ intText r.steps.length ++ " steps)")
  | some stop =>
    note Log.warning id ("Failed at node " ++ stop.nodeId.getD "None" ++ ": " ++ stop.message)

def unspelled (bs : List UInt8) : Fault :=
  let spells (k : Nat) : Bool := (String.fromUTF8? ⟨(bs.take k).toArray⟩).isSome
  let place := ((List.range bs.length).reverse.find? spells).getD 0
  .foreign .value ("'utf-8' codec can't decode byte 0x" ++
    .ofList (Text.hexDigits 2 (bs[place]?.getD 0).toNat) ++ " in position " ++ intText place ++
    ": invalid utf-8")

mutual

def firstBytes? : Value → Option (List UInt8)
  | .special (.bytes bs) => some bs
  | .list vs => firstBytesOfItems? vs
  | .object fs => firstBytesOfFields? fs
  | _ => none

def firstBytesOfItems? : List Value → Option (List UInt8)
  | [] => none
  | v :: vs => firstBytes? v <|> firstBytesOfItems? vs

def firstBytesOfFields? : List (String × Value) → Option (List UInt8)
  | [] => none
  | (_, v) :: fs => firstBytes? v <|> firstBytesOfFields? fs

end

def kept (r : Result) : Except Fault Value :=
  r.record.bind fun v ↦ match firstBytes? v with
    | some bs => .error (unspelled bs)
    | none => .ok v

/-- A run that stops is a success of its task, which fails only if the run gives no result. -/
def run (env : Environment) (actions : Actions) (rules : Rules) (clock : Clock) (id : String)
    (definition payload : Value) : Finished :=
  let opening := note Log.info id "Running automation"
  match Settings.ofEnvironment env with
  | .error f => ⟨[opening.tagged id], rules, clock, .error f⟩
  | .ok settings =>
    let e : Engine := ⟨actions, settings.unknownCondition⟩
    let r := e.runDefinition rules clock definition (payload.orElse (.object []))
    let last := match r.outcome with
      | .ok result => [closing id result]
      | .error _ => []
    { records := ((opening :: r.records) ++ last).map (Log.Record.tagged id)
      rules := r.rules
      clock := r.clock
      outcome := r.outcome.bind kept }

def undefined : Fault :=
  .argument "run_automation_task() missing 1 required positional argument: 'definition'"

end Task

structure TaskState where
  name : String
  result : Value := .null
  deriving DecidableEq, Repr

namespace TaskState

def pending : TaskState := { name := "PENDING" }

def troubled : List String := ["FAILURE", "RETRY", "REVOKED"]

def ofOutcome : Except Fault Value → TaskState
  | .ok v => { name := "SUCCESS", result := v }
  | .error f => { name := "FAILURE", result := Account.ofFault f }

end TaskState

abbrev TaskStates := List (String × TaskState)

namespace TaskStates

def find (ts : TaskStates) (id : String) : TaskState := (ts.lookup id).getD .pending

/-- Keeps the state of a task. One that has succeeded stays as it is. -/
def put (ts : TaskStates) (id : String) (t : TaskState) : TaskStates :=
  if (ts.find id).name = "SUCCESS" then ts else (id, t) :: ts

theorem find_put (ts : TaskStates) (id other : String) (t : TaskState) :
    (ts.put id t).find other =
      if other = id ∧ (ts.find id).name ≠ "SUCCESS" then t else ts.find other := by
  unfold put
  by_cases h : (ts.find id).name = "SUCCESS"
  · simp [h]
  · rw [if_neg h]
    by_cases ho : other = id
    · rw [if_pos ⟨ho, h⟩, ho]
      simp [find]
    · simp [ho, find, List.lookup_cons, beq_false_of_ne ho]

end TaskStates

end Automation
