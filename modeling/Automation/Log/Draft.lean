import Automation.Log.Line
import Automation.Log.Message
import Automation.Value.Identity

namespace Automation.Log

inductive Unwritten where
  | mismatch (m : Mismatch)
  | unhashable (kind : Kind)
  | notTextual (kind : Kind)
  | layoutless (kind : Kind)
  | partless (kind : Kind)
  | tooShort (kind : Kind)
  | numberless (n : Int)
  | lacking (kind : Kind) (name : String)
  deriving DecidableEq, Repr

def Unwritten.message : Unwritten → String
  | .mismatch m => m.message
  | .unhashable kind => "unhashable type: '" ++ kind.name ++ "'"
  | .notTextual kind => "Unknown format code 's' for object of type '" ++ kind.name ++ "'"
  | .layoutless kind => "unsupported format string passed to " ++ kind.name ++ ".__format__"
  | .partless kind => "'" ++ kind.name ++ "' object is not subscriptable"
  | .tooShort kind =>
    (if kind = .text then "string" else kind.name) ++ " index out of range"
  | .numberless n => intText n
  | .lacking kind name => "'" ++ kind.name ++ "' object has no attribute '" ++ name ++ "'"

structure Draft where
  level : Value
  logger : Value
  message : Value
  arguments : Message.Arguments := .row []
  fault : Option Value := none
  fields : Fields := []

namespace Draft

def ofRecord (r : Record) : Draft :=
  { level := .int r.level
    logger := .text r.logger
    message := .text r.message
    fields := r.fields }

def toRecord (d : Draft) : Record where
  level := match d.level with
    | .int n => n
    | v => if v.truthy then 1 else 0
  logger := d.logger.shown
  message := d.message.shown
  fields := d.fields

def namedLevels : List (String × Level) := [
  ("NOTSET", 0), ("DEBUG", debug), ("INFO", info), ("WARNING", warning), ("WARN", warning),
  ("ERROR", error), ("CRITICAL", critical), ("FATAL", critical)]

def levelName (level : Value) : Except Unwritten Value :=
  if level.key?.isNone then .error (.unhashable level.kind)
  else match namedLevels.find? fun p ↦ (Value.int p.2).same level with
    | some (name, _) => .ok (.text name)
    | none => .ok (match level with
      | .text name => match namedLevels.lookup name with
        | some n => .int n
        | none => .text ("Level " ++ name)
      | v => .text ("Level " ++ v.shown))

/-- A part of the draft, unless the draft carries something under the name of that part. -/
def part (d : Draft) (name : String) (v : Value) : Value := (d.fields.lookup name).getD v

def filled (d : Draft) : Except Unwritten String :=
  let args := match d.fields.lookup "args" with
    | some v => .single v
    | none => d.arguments
  (Message.fill (d.part "msg" d.message) args).mapError .mismatch

/-- What is told of a fault by a value that is none: by its third part, which should say where the
fault arose, and by its second one, which should be the fault. -/
def toldBy : Value → Except Unwritten String
  | .object _ => .error (.numberless 2)
  | .text s =>
    if s.length < 3 then .error (.tooShort .text) else .error (.lacking .text "tb_frame")
  | .list (_ :: fault :: origin :: _) =>
    if origin ≠ .null then .error (.lacking origin.kind "tb_frame")
    else if fault ≠ .null then .error (.lacking fault.kind "__suppress_context__")
    else .ok (Kind.null.name ++ ": " ++ fault.shown)
  | .list _ => .error (.tooShort .list)
  | v => .error (.partless v.kind)

def faultText (d : Draft) : Except Unwritten (Option String) :=
  match d.fields.lookup "exc_info" with
  | none => .ok (d.fault.map fun v ↦ Entry.faultText "RuntimeError" v.shown)
  | some v => if v.truthy then (toldBy v).map some else .ok none

def layable : Value → Except Unwritten Unit
  | .text _ => .ok ()
  | .bool _ => .error (.notTextual .bool)
  | .int _ => .error (.notTextual .int)
  | .float _ => .error (.notTextual .float)
  | v => .error (.layoutless v.kind)

def entry (d : Draft) (request levelName : Value) : Except Unwritten Entry := do
  let message ← d.filled
  let fault ← d.faultText
  let logger := d.part "name" d.logger
  return { levelName, logger, message, request, fault, fields := d.fields }

def plain (d : Draft) (request : Value) (now : Instant) : Except Unwritten String := do
  let name := d.part "levelname" (← levelName d.level)
  layable name
  return (← d.entry request name).plain now

def json (d : Draft) (request : Value) (now : Instant) : Except Unwritten String := do
  let name := d.part "levelname" (← levelName d.level)
  return (← d.entry request name).json now

end Draft

end Automation.Log
