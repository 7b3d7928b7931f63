import Automation.Instant
import Automation.Json.Writer
import Automation.Log.Record

namespace Automation.Log

structure Entry where
  levelName : Value
  logger : Value
  message : String
  request : Value := .null
  fault : Option String := none
  fields : Fields := []

namespace Entry

/-- The names of fields that say how an entry came about. -/
def reserved : List String := [
  "name", "msg", "args", "created", "filename", "funcName", "levelname", "levelno", "lineno",
  "module", "msecs", "message", "pathname", "process", "processName", "relativeCreated", "thread",
  "threadName", "exc_info", "exc_text", "stack_info", "taskName"]

def faultText (kind text : String) : String := if text = "" then kind else kind ++ ": " ++ text

def ofRecord (r : Record) : Entry where
  levelName := .text (Log.levelName r.level)
  logger := .text r.logger
  message := r.message
  request := textOrNull r.request
  fields := r.fields

def padded (width : Nat) (v : Value) : String :=
  v.shown ++ .ofList (List.replicate (width - v.shown.length) ' ')

def stamp (t : Instant) : String :=
  intText t.year ++ "-" ++ Instant.field 2 t.month ++ "-" ++ Instant.field 2 t.day ++ " " ++
    t.timeText

def plain (e : Entry) (now : Instant) : String :=
  "[" ++ stamp now.toUniversal ++ "] " ++ padded 8 e.levelName ++ " - " ++ e.logger.shown ++
    " - " ++ e.message ++
    (if e.request.truthy then " (request_id=" ++ e.request.shown ++ ")" else "") ++
    (e.fault.map ("\n" ++ ·)).getD ""

def json (e : Entry) (now : Instant) : String :=
  let extra := e.fields.without reserved
  Json.write <| .object <|
    [("timestamp", .text now.toUniversal.text), ("level", e.levelName),
      ("logger", e.logger), ("message", .text e.message)] ++
    (if e.request.truthy then [("request_id", e.request)] else []) ++
    (e.fault.toList.map fun f ↦ ("exception", .text f)) ++
    (if extra.isEmpty then [] else [("context", .object extra)])

end Entry

end Automation.Log
